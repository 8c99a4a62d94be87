/-!
# Characters and places of YAML text

The classes of characters that YAML text is cut by, and places in it. A place knows its line and
its column, because indentation is part of the grammar, and its distance from the start, because
keys are limited in length.
-/

namespace AgentFlow.Yaml

/-- Does a character break the line? -/
def isBreak (c : Char) : Bool :=
  c = '\n' || c = '\r' || c = '\u0085' || c = '\u2028' || c = '\u2029'

/-- Is a character a blank within a line? -/
def isBlank (c : Char) : Bool :=
  c = ' ' || c = '\t'

/-- Does a blank, a line break or the end of the text come next? -/
def atGap : List Char → Bool
  | [] => true
  | c :: _ => isBlank c || isBreak c

/-- Does a line break or the end of the text come next? -/
def atLineEnd : List Char → Bool
  | [] => true
  | c :: _ => isBreak c

/-- May a character stand in YAML text at all? -/
def isAllowed (c : Char) : Bool :=
  let n := c.toNat
  n = 0x09 || n = 0x0A || n = 0x0D || (0x20 ≤ n && n ≤ 0x7E) || n = 0x85 ||
    (0xA0 ≤ n && n ≤ 0xD7FF) || (0xE000 ≤ n && n ≤ 0xFFFD) || 0x10000 ≤ n

/-- The characters of names: of anchors, of directives, of tag handles. -/
def isNameChar (c : Char) : Bool :=
  c.isAlphanum || c = '_' || c = '-'

/-- What a line break counts as in a scalar: the breaks of other systems are line feeds, the
separators of lines and paragraphs stay. -/
def normalBreak (c : Char) : Char :=
  if c = '\u2028' || c = '\u2029' then c else '\n'

/-- The marks that start and end documents. -/
inductive DocumentMark where
  | start
  | stop
  deriving DecidableEq, Repr

/-- The mark of a document at the start of a line. -/
def documentMark? : List Char → Option DocumentMark
  | '-' :: '-' :: '-' :: rest => if atGap rest then some .start else none
  | '.' :: '.' :: '.' :: rest => if atGap rest then some .stop else none
  | _ => none

/-- A place in a text. -/
structure Place where
  index : Nat
  line : Nat
  column : Nat
  deriving Repr, Inhabited

namespace Place

/-- The place behind the first `count` characters of a text. A carriage return and a line feed are
one line break. -/
def advance (place : Place) : Nat → List Char → Place
  | 0, _ => place
  | _, [] => place
  | count + 1, c :: rest =>
    let next : Place :=
      if isBreak c && !(c = '\r' && rest.head? = some '\n') then
        ⟨place.index + 1, place.line + 1, 0⟩
      else ⟨place.index + 1, place.line, place.column + 1⟩
    next.advance count rest

end Place

end AgentFlow.Yaml
