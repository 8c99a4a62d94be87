import AgentFlow.Flow.Document
import AgentFlow.Yaml.Document

/-!
# Flow files

A flow document in a file is written in JSON or in YAML; the name of the file says in which.
-/

namespace AgentFlow

/-- Why a file cannot be read as text. -/
inductive FileFault where
  | missing
  | notText
  | other (reason : String)
  deriving DecidableEq, Repr, Inhabited

namespace FileFault

/-- The text shown for a fault. -/
def message : FileFault → String
  | missing => "No such file or directory (os error 2)"
  | notText => "stream did not contain valid UTF-8"
  | other reason => reason

end FileFault

/-- What a file holds, or why that is not known. -/
abbrev FileContent := Except FileFault ByteArray

/-- The formats of flow files. -/
inductive FileFormat where
  | json
  | yaml
  deriving DecidableEq, Repr, Inhabited

namespace FileFormat

/-- The last part of a path, if it names a file. -/
def fileName? (path : List Char) : Option (List Char) :=
  let parts := (path.splitOn '/').filter fun part => !part.isEmpty && part ≠ ['.']
  parts.getLast?.filter (· ≠ ['.', '.'])

/-- What follows the last dot of a file's name. A dot in front of the name does not count. -/
def extension? (path : String) : Option String := do
  let backwards := (← fileName? path.toList).reverse
  let stem := (backwards.dropWhile (· ≠ '.')).drop 1
  if stem.isEmpty then none
  return String.ofList (backwards.takeWhile (· ≠ '.')).reverse

/-- The format of a file: JSON if its name ends so, in any case of letters, else YAML. -/
def ofPath (path : String) : FileFormat :=
  if (extension? path).any fun name => name.map Char.toLower = "json" then json else yaml

end FileFormat

/-- Why a flow cannot be loaded. -/
inductive LoadError where
  | unreadable (path : String) (fault : FileFault)
  | badJson (cause : DecodeError)
  | badYaml (cause : DecodeError)

namespace LoadError

/-- The text shown for an error. -/
def message : LoadError → String
  | unreadable path fault => "Failed to read " ++ path ++ ": " ++ fault.message
  | badJson cause => cause.message
  | badYaml cause => cause.message

end LoadError

namespace FlowDocument

/-- Reads a document from YAML text. -/
def ofYamlText (text : String) : Except DecodeError FlowDocument :=
  match Yaml.document? text with
  | some node => read .yaml node
  | none => .error (.unreadable .malformed)

/-- Reads a document from the content of the file at a path. -/
def ofFile (path : String) (content : FileContent) : Except LoadError FlowDocument :=
  match content with
  | .error fault => .error (.unreadable path fault)
  | .ok bytes =>
    match String.fromUTF8? bytes, FileFormat.ofPath path with
    | none, _ => .error (.unreadable path .notText)
    | some text, .json => (ofJsonText text).mapError .badJson
    | some text, .yaml => (ofYamlText text).mapError .badYaml

end FlowDocument

end AgentFlow
