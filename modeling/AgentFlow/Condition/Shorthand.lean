import AgentFlow.Text.Blank

/-!
# Condition shorthands

A few conditions can be said in words: `path exists` or `exists path`, `path is empty` or
`path is not empty`, `path contains 'text'` (or in double quotes). Blanks separate the words and
may surround them. Letter case of the words does not matter, under simple case folding, so the long
s counts as an s; and the Kelvin sign counts as a letter of a path.
-/

namespace AgentFlow

/-- A condition said in words. -/
inductive Shorthand where
  | present (path : String)
  | empty (path : String) (negated : Bool)
  | contains (path : String) (needle : String)
  deriving DecidableEq, Repr, Inhabited

namespace Shorthand

/-- The small ASCII letter that a character folds to, or the character itself. -/
def fold (c : Char) : Char :=
  if c = '\u017f' then 's' else if c = '\u212a' then 'k' else c.toLower

/-- Is a word this keyword, letter case aside? -/
def isKeyword (keyword : String) (word : List Char) : Bool :=
  word.map fold = keyword.toList

/-- May a segment of a path start with this character? -/
def startsPath (c : Char) : Bool :=
  (fold c).isAlpha || c = '_' || c = '$'

/-- May a segment of a path hold this character? -/
def continuesPath (c : Char) : Bool :=
  startsPath c || c.isDigit

/-- Is a word a dotted path? The root starts with no digit, further segments may. -/
def isPath (word : List Char) : Bool :=
  match Text.pieces '.' word with
  | (c :: root) :: rest =>
    startsPath c && root.all continuesPath &&
      rest.all fun segment => !segment.isEmpty && segment.all continuesPath
  | _ => false

/-- Recognises the shorthands that are made of words only. -/
def ofWords? : List (List Char) → Option Shorthand
  | [a, b] =>
    if isPath a && isKeyword "exists" b then some (.present (String.ofList a))
    else if isKeyword "exists" a && isPath b then some (.present (String.ofList b))
    else none
  | [a, b, c] =>
    if isPath a && isKeyword "is" b && isKeyword "empty" c then
      some (.empty (String.ofList a) false)
    else none
  | [a, b, c, d] =>
    if isPath a && isKeyword "is" b && isKeyword "not" c && isKeyword "empty" d then
      some (.empty (String.ofList a) true)
    else none
  | _ => none

/-- The first word of a text and what follows it. -/
def splitWord (cs : List Char) : List Char × List Char :=
  let cs := Text.trimStart cs
  (cs.takeWhile (!Text.isBlank ·), cs.dropWhile (!Text.isBlank ·))

/-- A text in quotes with nothing but blanks around it. -/
def needle? (cs : List Char) : Option (List Char) :=
  match Text.trimStart cs with
  | [] => none
  | quote :: body =>
    if quote = '\'' || quote = '"' then
      match body.dropWhile (· ≠ quote) with
      | [] => none
      | _ :: behind =>
        if behind.all Text.isBlank then some (body.takeWhile (· ≠ quote)) else none
    else none

/-- Recognises the shorthand that holds a text. -/
def containing? (cs : List Char) : Option Shorthand :=
  let (path, rest) := splitWord cs
  let (keyword, rest) := splitWord rest
  if isPath path && isKeyword "contains" keyword then
    (needle? rest).map fun needle => .contains (String.ofList path) (String.ofList needle)
  else none

/-- Recognises a shorthand. -/
def recognize? (condition : String) : Option Shorthand :=
  (ofWords? (Text.words condition.toList)).or (containing? condition.toList)

/-- The path that a shorthand is about. -/
def path : Shorthand → String
  | present path => path
  | empty path _ => path
  | contains path _ => path

end Shorthand

end AgentFlow
