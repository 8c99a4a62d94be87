import AgentFlow.Text.Blank

/-!
# Environments

An environment gives values to names. A file of settings extends it: each of its lines is blank, a
comment behind `#`, or `NAME=value`, with the word `export` in front or without. A setting does not
replace a value that there is already.

A value is cut at the first blank outside of quotes, behind which only a comment may stand. Between
single quotes every character stands for itself; elsewhere a backslash takes the meaning from the
next character, and `$NAME` and `${NAME}` stand for values of the environment so far.

The first faulty line ends the settings; those in front of it count.
-/

namespace AgentFlow.CommandLine

/-- The values of names. -/
abbrev Environment := String → Option String

namespace Environment

/-- Where a character of a value stands. -/
inductive Place where
  | bare
  | singleQuoted
  | doubleQuoted
  /-- Behind a backslash, in double quotes or not. -/
  | escaped (inQuotes : Bool)
  /-- Behind a dollar sign and the first characters of a name, last one first. -/
  | name (inQuotes : Bool) (backwards : List Char)
  /-- The same in braces. -/
  | bracedName (inQuotes : Bool) (backwards : List Char)
  /-- Behind the value. -/
  | behind
  deriving DecidableEq, Repr, Inhabited

/-- Back to the text around an escape or a name. -/
def Place.around (inQuotes : Bool) : Place :=
  if inQuotes then doubleQuoted else bare

/-- What a character behind a backslash stands for. -/
def unescape? : Char → Option Char
  | '\\' => some '\\'
  | '"' => some '"'
  | '\'' => some '\''
  | '$' => some '$'
  | ' ' => some ' '
  | 'n' => some '\n'
  | _ => none

/-- The characters of the value that a name stands for, last one first. -/
def valueBackwards (environment : Environment) (backwards : List Char) : List Char :=
  ((environment (String.ofList backwards.reverse)).getD "").toList.reverse

/-- Reads a value from a place on; `done` is what has been read, last character first. -/
def readValue (environment : Environment) : Place → List Char → List Char → Option (List Char)
  | .bare, done, [] => some done.reverse
  | .behind, done, [] => some done.reverse
  | .escaped false, done, [] => some done.reverse
  | .name false name, done, [] => some (environment.valueBackwards name ++ done).reverse
  | _, _, [] => none
  | .behind, done, c :: rest =>
    if c = ' ' || c = '\t' then environment.readValue .behind done rest
    else if c = '#' then some done.reverse
    else none
  | .escaped inQuotes, done, c :: rest => do
    environment.readValue (.around inQuotes) ((← unescape? c) :: done) rest
  | .singleQuoted, done, c :: rest =>
    if c = '\'' then environment.readValue .bare done rest
    else environment.readValue .singleQuoted (c :: done) rest
  | .name inQuotes name, done, c :: rest =>
    if c.isAlphanum then environment.readValue (.name inQuotes (c :: name)) done rest
    else if c = '\x7b' && name.isEmpty then
      environment.readValue (.bracedName inQuotes []) done rest
    else
      let done := environment.valueBackwards name ++ done
      if c = '$' then environment.readValue (.name inQuotes []) done rest
      else environment.readValue (.around inQuotes) (c :: done) rest
  | .bracedName inQuotes name, done, c :: rest =>
    if c = '\x7d' then
      environment.readValue (.around inQuotes) (environment.valueBackwards name ++ done) rest
    else environment.readValue (.bracedName inQuotes (c :: name)) done rest
  | .doubleQuoted, done, c :: rest =>
    if c = '"' then environment.readValue .bare done rest
    else if c = '$' then environment.readValue (.name true []) done rest
    else if c = '\\' then environment.readValue (.escaped true) done rest
    else environment.readValue .doubleQuoted (c :: done) rest
  | .bare, done, c :: rest =>
    if c = '\'' then environment.readValue .singleQuoted done rest
    else if c = '"' then environment.readValue .doubleQuoted done rest
    else if c = '$' then environment.readValue (.name false []) done rest
    else if c = '\\' then environment.readValue (.escaped false) done rest
    else if c = ' ' || c = '\t' then environment.readValue .behind done rest
    else environment.readValue .bare (c :: done) rest

/-- Reads the name in front of a line, and the blanks behind it. -/
def readName (line : List Char) : Option (String × List Char) := do
  let isName (c : Char) : Bool := c.isAlphanum || c = '_' || c = '.'
  let first ← line.head?
  if !(first.isAlpha || first = '_') then none
  return (String.ofList (line.takeWhile isName), Text.trimStart (line.dropWhile isName))

/-- Reads the value behind an equals sign. -/
def readAssigned (environment : Environment) : List Char → Option String
  | '=' :: rest =>
    let rest := Text.trimStart rest
    if rest.isEmpty || rest.head? = some '#' then some ""
    else (environment.readValue .bare [] rest).map String.ofList
  | _ => none

/-- What a line of settings holds. -/
inductive Line where
  | nothing
  | setting (name value : String)
  | faulty
  deriving DecidableEq, Repr, Inhabited

/-- Reads a line of settings. `export` is a name itself where an equals sign follows. -/
def readLine (environment : Environment) (line : List Char) : Line :=
  let line := Text.trim line
  if line.isEmpty || line.head? = some '#' then .nothing
  else
    let setting? : Option (String × String) := do
      let (name, rest) ← readName line
      if name = "export" && rest.head? ≠ some '=' then
        let (name, rest) ← readName rest
        return (name, ← environment.readAssigned rest)
      else return (name, ← environment.readAssigned rest)
    match setting? with
    | some (name, value) => .setting name value
    | none => .faulty

/-- An environment with one more value, unless it has one for the name. -/
def add (environment : Environment) (name value : String) : Environment :=
  fun other => (environment other).or (if other = name then some value else none)

/-- Extends an environment by lines of settings. -/
def addLines (environment : Environment) : List (List Char) → Environment
  | [] => environment
  | line :: rest =>
    match environment.readLine line with
    | .nothing => environment.addLines rest
    | .setting name value => (environment.add name value).addLines rest
    | .faulty => environment

/-- Extends an environment by a text of settings. -/
def addSettings (environment : Environment) (text : String) : Environment :=
  environment.addLines (Text.pieces '\n' text.toList)

theorem add_eq_of_eq_some {environment : Environment} {other value : String}
    (h : environment other = some value) (name new : String) :
    environment.add name new other = some value := by
  simp [add, h]

theorem addLines_eq_of_eq_some {environment : Environment} {name value : String}
    (h : environment name = some value) (lines : List (List Char)) :
    environment.addLines lines name = some value := by
  induction lines generalizing environment with
  | nil => exact h
  | cons line rest ih =>
    simp only [addLines]
    cases environment.readLine line with
    | nothing => exact ih h
    | setting name value => exact ih (add_eq_of_eq_some h _ _)
    | faulty => exact h

/-- Settings do not replace a value. -/
theorem addSettings_eq_of_eq_some {environment : Environment} {name value : String}
    (h : environment name = some value) (text : String) :
    environment.addSettings text name = some value :=
  addLines_eq_of_eq_some h _

end Environment

end AgentFlow.CommandLine
