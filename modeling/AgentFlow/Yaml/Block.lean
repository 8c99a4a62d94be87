import AgentFlow.Yaml.Source

/-!
# Block scalars

Scalars that stand on lines of their own, indented. A literal one keeps its line breaks. A folded
one joins neighbouring lines by a blank, unless one of them starts with a blank. Empty lines count
as line breaks. What becomes of the line breaks at the end is said behind the mark.
-/

namespace AgentFlow.Yaml

/-- What becomes of the line breaks at the end. -/
inductive Chomping where
  /-- All of them are dropped. -/
  | strip
  /-- The first one stays. -/
  | clip
  /-- All of them stay. -/
  | keep
  deriving DecidableEq, Repr

/-- What is said behind the mark of a block scalar. -/
structure BlockHeader where
  chomping : Chomping
  /-- The indentation that is asked for, zero if none is. -/
  increment : Nat
  used : Nat

/-- The chomping that a character asks for. -/
def chomping? (c : Char) : Option Chomping :=
  if c = '+' then some .keep else if c = '-' then some .strip else none

/-- Reads an indicator of indentation, which may be absent but not zero. -/
def increment? : List Char → Option (Nat × Nat)
  | c :: _ =>
    if c = '0' then none
    else if c.isDigit then some (c.toNat - '0'.toNat, 1)
    else some (0, 0)
  | [] => some (0, 0)

/-- Reads the indicators of chomping and indentation, in either order. -/
def indicators? (cs : List Char) : Option BlockHeader :=
  match cs.head?.bind chomping? with
  | some chomping => (increment? cs.tail).map fun (n, used) => ⟨chomping, n, used + 1⟩
  | none =>
    (increment? cs).map fun (n, used) =>
      match if used = 0 then none else (cs.drop used).head?.bind chomping? with
      | some chomping => ⟨chomping, n, used + 1⟩
      | none => ⟨.clip, n, used⟩

/-- How many characters are left of a line that may hold only blanks and a comment. -/
def restOfLine? (cs : List Char) : Option Nat :=
  let blanks := cs.takeWhile isBlank
  let behind := cs.drop blanks.length
  let comment := if behind.head? = some '#' then behind.takeWhile (!isBreak ·) else []
  if atLineEnd (behind.drop comment.length) then some (blanks.length + comment.length) else none

/-- How many characters the line break in front takes. -/
def breakLength : List Char → Nat
  | '\r' :: '\n' :: _ => 2
  | c :: _ => if isBreak c then 1 else 0
  | [] => 0

/-- Reads what stands behind the mark, up to the next line. -/
def blockHeader? (cs : List Char) : Option BlockHeader :=
  (indicators? cs).bind fun header =>
    (restOfLine? (cs.drop header.used)).map fun rest =>
      let used := header.used + rest
      { header with used := used + breakLength (cs.drop used) }

/-- Empty lines and the indentation of the line behind them. -/
structure Margin where
  /-- The line breaks, the last one first. -/
  breaks : List Char
  /-- The deepest indentation. -/
  deepest : Nat
  column : Nat
  used : Nat

/-- Skips empty lines and indentation, up to column `indent` or, if that is not known yet (zero),
up to the first character that is no blank. A tab is no indentation. -/
def margin? (indent : Nat) (margin : Margin) : List Char → Option Margin
  | [] => some { margin with deepest := max margin.deepest margin.column }
  | c :: rest =>
    let margin := { margin with deepest := max margin.deepest margin.column }
    let inMargin := indent = 0 || margin.column < indent
    if inMargin && c = ' ' then
      margin? indent { margin with column := margin.column + 1, used := margin.used + 1 } rest
    else if inMargin && c = '\t' then none
    else if isBreak c then
      let breaks :=
        if c = '\r' && rest.head? = some '\n' then margin.breaks
        else normalBreak c :: margin.breaks
      margin? indent { margin with breaks, column := 0, used := margin.used + 1 } rest
    else some margin

/-- A block scalar as far as it is read. -/
structure BlockText where
  /-- The characters, last one first. -/
  out : List Char
  /-- The break of the last line. -/
  lastBreak : Option Char
  /-- The line breaks of the empty lines behind it, the last one first. -/
  breaks : List Char
  /-- Did the last line start with a blank? -/
  blankLine : Bool
  column : Nat
  used : Nat

namespace BlockText

/-- The text with a line appended, but for its line break. -/
def addLine (text : BlockText) (folded : Bool) (line : List Char) : BlockText :=
  let blankLine := match line with | c :: _ => isBlank c | [] => false
  let joint :=
    if folded && text.lastBreak = some '\n' && !text.blankLine && !blankLine then
      if text.breaks.isEmpty then [' '] else []
    else text.lastBreak.toList
  { text with
    out := line.reverse ++ text.breaks ++ joint ++ text.out
    lastBreak := none
    breaks := []
    blankLine }

/-- The text at the end of the scalar. -/
def finish (text : BlockText) (chomping : Chomping) : List Char :=
  match chomping with
  | .strip => text.out.reverse
  | .clip => (text.lastBreak.toList ++ text.out).reverse
  | .keep => (text.breaks ++ text.lastBreak.toList ++ text.out).reverse

end BlockText

/-- Reads the lines of a block scalar, as long as they are indented by `indent`. -/
def blockLines? (folded : Bool) (indent : Nat) (text : BlockText) (cs : List Char) :
    Option BlockText :=
  match cs with
  | [] => some text
  | c :: rest =>
    if text.column ≠ indent then some text
    else
      let line := c :: rest.takeWhile (!isBreak ·)
      let behind := (c :: rest).drop line.length
      let width := breakLength behind
      let text := text.addLine folded line
      let margin : Margin := ⟨[], 0, if width = 0 then text.column + line.length else 0, 0⟩
      match margin? indent margin (behind.drop width) with
      | none => none
      | some margin =>
        blockLines? folded indent
          { text with
            lastBreak := behind.head?.map normalBreak
            breaks := margin.breaks
            column := margin.column
            used := text.used + line.length + width + margin.used }
          ((behind.drop width).drop margin.used)
termination_by cs.length
decreasing_by
  simp only [List.length_drop, List.length_cons]
  omega

/-- Reads a block scalar from behind its mark, and how many characters it takes. `outer` is the
indentation of the collection around it. -/
def block? (folded : Bool) (outer : Int) (cs : List Char) : Option (String × Nat) :=
  (blockHeader? cs).bind fun header =>
    let cs := cs.drop header.used
    let asked := if header.increment = 0 then 0 else (max outer 0).toNat + header.increment
    (margin? asked ⟨[], 0, 0, 0⟩ cs).bind fun margin =>
      let indent :=
        if asked = 0 then max (max margin.deepest (outer + 1).toNat) 1 else asked
      let start : BlockText := ⟨[], none, margin.breaks, false, margin.column, margin.used⟩
      (blockLines? folded indent start (cs.drop margin.used)).map fun text =>
        (String.ofList (text.finish header.chomping), header.used + text.used)

end AgentFlow.Yaml
