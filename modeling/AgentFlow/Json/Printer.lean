import AgentFlow.Json.Basic
import AgentFlow.Numeric.Decimal

/-!
# JSON text

The text of a value, without blanks or with one entry a line. Strings escape the quote, the
backslash and the characters below U+0020; doubles are written with the fewest digits that read
back, always with a point or an exponent so that they stay apart from integers.
-/

namespace AgentFlow.Json

/-- Doubles from `1e-5` up to `1e16` are written positionally, whole ones with `.0`. -/
def floatLayout : Layout := ⟨some (-5, 15), true⟩

/-- The text of a number. -/
def Number.render : Number → String
  | int n => toString n
  | float x => floatLayout.writeFloat x

/-- Four hexadecimal digits, lower case. -/
def hex4 (n : Nat) : List Char :=
  let digits := Nat.toDigits 16 n
  List.replicate (4 - digits.length) '0' ++ digits

/-- How a character stands inside quotes. -/
def escape (c : Char) : List Char :=
  if c = '"' then ['\\', '"']
  else if c = '\\' then ['\\', '\\']
  else if c = '\x08' then ['\\', 'b']
  else if c = '\x0c' then ['\\', 'f']
  else if c = '\n' then ['\\', 'n']
  else if c = '\r' then ['\\', 'r']
  else if c = '\t' then ['\\', 't']
  else if c.val < 0x20 then '\\' :: 'u' :: hex4 c.toNat
  else [c]

/-- A text in quotes. -/
def quote (s : String) : String :=
  let body := s.foldl (fun out c => (escape c).foldl String.push out) ""
  "\"" ++ body ++ "\""

mutual

/-- The text of a value, without blanks. -/
def render : Json → String
  | null => "null"
  | bool true => "true"
  | bool false => "false"
  | number n => n.render
  | string s => quote s
  | array items => "[" ++ renderItems items ++ "]"
  | object fields => "\x7b" ++ renderFields fields ++ "\x7d"

/-- Items with commas between them. -/
def renderItems : List Json → String
  | [] => ""
  | [item] => item.render
  | item :: rest => item.render ++ "," ++ renderItems rest

/-- Entries with commas between them. -/
def renderFields : List (String × Json) → String
  | [] => ""
  | [(key, value)] => quote key ++ ":" ++ value.render
  | (key, value) :: rest => quote key ++ ":" ++ value.render ++ "," ++ renderFields rest

end

/-- The start of a line at a depth: two blanks a level. -/
def lineStart (depth : Nat) : String :=
  "\n" ++ String.ofList (List.replicate (2 * depth) ' ')

mutual

/-- The text of a value with one item or entry a line, at a depth of indentation. -/
def renderLines (depth : Nat) : Json → String
  | array (item :: rest) => "[" ++ linesOfItems depth (item :: rest) ++ lineStart depth ++ "]"
  | object (entry :: rest) =>
    "\x7b" ++ linesOfFields depth (entry :: rest) ++ lineStart depth ++ "\x7d"
  | value => value.render

/-- Items a line each. -/
def linesOfItems (depth : Nat) : List Json → String
  | [] => ""
  | [item] => lineStart (depth + 1) ++ item.renderLines (depth + 1)
  | item :: rest =>
    lineStart (depth + 1) ++ item.renderLines (depth + 1) ++ "," ++ linesOfItems depth rest

/-- Entries a line each. -/
def linesOfFields (depth : Nat) : List (String × Json) → String
  | [] => ""
  | [(key, value)] => lineStart (depth + 1) ++ quote key ++ ": " ++ value.renderLines (depth + 1)
  | (key, value) :: rest =>
    lineStart (depth + 1) ++ quote key ++ ": " ++ value.renderLines (depth + 1) ++ "," ++
      linesOfFields depth rest

end

/-- The text of a value with one item or entry a line. -/
def renderPretty (value : Json) : String :=
  value.renderLines 0

end AgentFlow.Json
