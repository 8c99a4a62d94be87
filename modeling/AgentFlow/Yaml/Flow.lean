import AgentFlow.Numeric.Numeral
import AgentFlow.Yaml.Source

/-!
# Plain and quoted scalars

Scalars that flow over line ends. A run of blanks that holds no line break stays as it is. Of a run
with line breaks the blanks are dropped and the breaks are folded: one becomes a blank, of several
the first is dropped.
-/

namespace AgentFlow.Yaml

/-- A run of blanks and line breaks inside a scalar, in front of the place that is read. -/
inductive Gap where
  | none
  /-- Blanks, the last one first. -/
  | blanks (run : List Char)
  /-- A first line break, unless it was escaped, and those behind it, the last one first. -/
  | breaks (first : Option Char) (more : List Char)

namespace Gap

/-- What a run amounts to. -/
def text : Gap → List Char
  | none => []
  | blanks run => run.reverse
  | breaks Option.none more => more.reverse
  | breaks (some first) more =>
    if first ≠ '\n' then first :: more.reverse
    else if more.isEmpty then [' ']
    else more.reverse

/-- The run with one more blank. -/
def addBlank (c : Char) : Gap → Gap
  | none => blanks [c]
  | blanks run => blanks (c :: run)
  | breaks first more => breaks first more

/-- The run with one more line break. -/
def addBreak (c : Char) : Gap → Gap
  | breaks first more => breaks first (normalBreak c :: more)
  | _ => breaks (some (normalBreak c)) []

/-- Does the run hold a line break? -/
def hasBreak : Gap → Bool
  | breaks _ _ => true
  | _ => false

/-- Is there a run? -/
def isNone : Gap → Bool
  | none => true
  | _ => false

end Gap

/-- A scalar that was read, and how many characters it took. -/
structure Flowing where
  text : String
  used : Nat
  /-- Is the text read up to the start of a line? -/
  atLineStart : Bool

/-! ### Plain scalars -/

/-- Does a plain scalar end in front of a character? -/
def endsPlain (inFlow : Bool) (c : Char) (rest : List Char) : Bool :=
  (c = ':' && atGap rest) || (inFlow && [',', '[', ']', '\x7b', '\x7d'].contains c)

/-- Is a colon out of place in a plain scalar? -/
def isStrayColon (inFlow : Bool) (c : Char) (rest : List Char) : Bool :=
  inFlow && c = ':' &&
    match rest with
    | d :: _ => [',', '?', '[', ']', '\x7b', '\x7d'].contains d
    | [] => false

/-- Does a plain scalar end behind a gap, in front of a text? Outside of brackets it has to be
indented by `indent`. -/
def endsBehindGap (inFlow : Bool) (indent : Int) (column : Nat) (cs : List Char) : Bool :=
  (!inFlow && column < indent) || (column = 0 && (documentMark? cs).isSome) || cs.head? = some '#'

/-- Reads a plain scalar. `out` holds its characters so far, last one first. -/
def plain? (inFlow : Bool) (indent : Int) (out : List Char) (gap : Gap) (column used : Nat) :
    List Char → Option Flowing
  | [] => some ⟨String.ofList out.reverse, used, gap.hasBreak⟩
  | c :: rest =>
    if isBlank c then
      if c = '\t' && gap.hasBreak && column < indent then none
      else plain? inFlow indent out (gap.addBlank c) (column + 1) (used + 1) rest
    else if isBreak c then
      let gap := if c = '\r' && rest.head? = some '\n' then gap else gap.addBreak c
      plain? inFlow indent out gap 0 (used + 1) rest
    else if !gap.isNone && endsBehindGap inFlow indent column (c :: rest) then
      some ⟨String.ofList out.reverse, used, gap.hasBreak⟩
    else if isStrayColon inFlow c rest then none
    else if endsPlain inFlow c rest then
      some ⟨String.ofList out.reverse, used, gap.hasBreak⟩
    else plain? inFlow indent (c :: (gap.text.reverse ++ out)) .none (column + 1) (used + 1) rest

/-! ### Quoted scalars -/

/-- The character that an escape of one letter stands for. -/
def escaped? (c : Char) : Option Char :=
  [('0', '\x00'), ('a', '\x07'), ('b', '\x08'), ('t', '\t'), ('\t', '\t'), ('n', '\n'),
    ('v', '\x0b'), ('f', '\x0c'), ('r', '\r'), ('e', '\x1b'), (' ', ' '), ('"', '"'), ('/', '/'),
    ('\\', '\\'), ('N', '\u0085'), ('_', '\u00a0'), ('L', '\u2028'), ('P', '\u2029')].lookup c

/-- How many hexadecimal digits an escape has. -/
def escapeLength? (c : Char) : Option Nat :=
  [('x', 2), ('u', 4), ('U', 8)].lookup c

/-- The character with a number, if there is one. -/
def charOf? (n : Nat) : Option Char :=
  if n.isValidChar then some (Char.ofNat n) else none

/-- Reads an escape behind its backslash: the character, and how much of the text it took. -/
def escape? : List Char → Option (Char × Nat)
  | [] => none
  | c :: rest =>
    match escaped? c with
    | some d => some (d, 1)
    | none =>
      (escapeLength? c).bind fun length =>
        if (rest.take length).length < length then none
        else
          (Numeral.natural? 16 (rest.take length)).bind fun n =>
            (charOf? n).map fun d => (d, 1 + length)

/-- Reads a quoted scalar up to its closing quote, from behind the opening one. -/
def quoted? (quote : Char) (out : List Char) (gap : Gap) (column used : Nat) (cs : List Char) :
    Option Flowing :=
  match cs with
  | [] => none
  | c :: rest =>
    if isBlank c then quoted? quote out (gap.addBlank c) (column + 1) (used + 1) rest
    else if isBreak c then
      let gap := if c = '\r' && rest.head? = some '\n' then gap else gap.addBreak c
      quoted? quote out gap 0 (used + 1) rest
    else if !gap.isNone && column = 0 && (documentMark? (c :: rest)).isSome then none
    else
      let out := gap.text.reverse ++ out
      if c = quote then
        if quote = '\'' && rest.head? = some '\'' then
          quoted? quote ('\'' :: out) .none (column + 2) (used + 2) (rest.drop 1)
        else some ⟨String.ofList out.reverse, used + 1, false⟩
      else if quote = '"' && c = '\\' then
        match rest with
        | '\r' :: '\n' :: rest => quoted? quote out (.breaks none []) 0 (used + 3) rest
        | b :: rest =>
          if isBreak b then quoted? quote out (.breaks none []) 0 (used + 2) rest
          else
            match escape? (b :: rest) with
            | some (d, length) =>
              quoted? quote (d :: out) .none (column + 1 + length) (used + 1 + length)
                ((b :: rest).drop length)
            | none => none
        | [] => none
      else quoted? quote (c :: out) .none (column + 1) (used + 1) rest
termination_by cs.length
decreasing_by all_goals simp_all only [List.length_drop, List.length_cons]; omega

end AgentFlow.Yaml
