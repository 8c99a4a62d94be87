import AgentFlow.Numeric.Numeral
import AgentFlow.Yaml.Source

/-!
# Anchors, tags and directives

The parts of YAML text that say something about a node or about the document: the names of anchors
and aliases, tags with their handles, and the directives for the version and for handles.
-/

namespace AgentFlow.Yaml

/-- Reads the name of an anchor or an alias, behind its mark. -/
def anchorName? (cs : List Char) : Option (String × Nat) :=
  let name := cs.takeWhile isNameChar
  let behind := cs.drop name.length
  let ends := atGap behind ||
    match behind with
    | c :: _ => ['?', ':', ',', ']', '\x7d', '%', '@', '\x60'].contains c
    | [] => true
  if name.isEmpty || !ends then none else some (String.ofList name, name.length)

/-- The characters of a tag. In a verbatim tag some brackets are allowed too. -/
def isTagChar (verbatim : Bool) (c : Char) : Bool :=
  isNameChar c ||
    [';', '/', '?', ':', '@', '&', '=', '+', '$', '.', '%', '!', '~', '*', '\'', '(',
      ')'].contains c ||
    (verbatim && [',', '[', ']'].contains c)

/-- One byte, written as a percent sign and two digits. -/
def percentByte? : List Char → Option Nat
  | '%' :: a :: b :: _ => Numeral.natural? 16 [a, b]
  | _ => none

/-- How many bytes a character has in UTF-8, by its first one. -/
def utf8Length? (first : Nat) : Option Nat :=
  if first < 0x80 then some 1
  else if 0xC0 ≤ first && first < 0xE0 then some 2
  else if 0xE0 ≤ first && first < 0xF0 then some 3
  else if 0xF0 ≤ first && first < 0xF8 then some 4
  else none

/-- Reads the further bytes of a character. -/
def percentTail? (value : Nat) : Nat → List Char → Option Nat
  | 0, _ => some value
  | count + 1, cs =>
    (percentByte? cs).bind fun byte =>
      if 0x80 ≤ byte && byte < 0xC0 then percentTail? (value * 64 + byte % 64) count (cs.drop 3)
      else none

/-- Reads a character written in percent signs, and how much of the text it took. -/
def percentChar? (cs : List Char) : Option (Char × Nat) :=
  (percentByte? cs).bind fun first =>
    (utf8Length? first).bind fun length =>
      let high := if length = 1 then first else first % Nat.pow 2 (7 - length)
      (percentTail? high (length - 1) (cs.drop 3)).map fun n => (Char.ofNat n, 3 * length)

/-- Reads the characters of a tag; also returns how many characters of the text they took. -/
def tagChars? (verbatim : Bool) (out : List Char) (used : Nat) (cs : List Char) :
    Option (List Char × Nat) :=
  match cs with
  | [] => some (out.reverse, used)
  | c :: rest =>
    if !isTagChar verbatim c then some (out.reverse, used)
    else if c = '%' then
      match percentChar? (c :: rest) with
      | some (d, length) => tagChars? verbatim (d :: out) (used + length) (rest.drop (length - 1))
      | none => none
    else tagChars? verbatim (c :: out) (used + 1) rest
termination_by cs.length
decreasing_by all_goals simp only [List.length_drop, List.length_cons]; omega

/-- A tag as it is written: a handle and what follows it. A verbatim tag has an empty handle. -/
structure RawTag where
  handle : String
  suffix : String
  used : Nat

/-- Reads a tag from behind its exclamation mark. -/
def rawTag? : List Char → Option RawTag
  | '<' :: rest =>
    (tagChars? true [] 0 rest).bind fun (suffix, used) =>
      match rest.drop used with
      | '>' :: _ =>
        if suffix.isEmpty then none else some ⟨"", String.ofList suffix, used + 2⟩
      | _ => none
  | cs =>
    let name := cs.takeWhile isNameChar
    match cs.drop name.length with
    | '!' :: rest =>
      (tagChars? false [] 0 rest).bind fun (suffix, used) =>
        if suffix.isEmpty then none
        else
          some ⟨String.ofList ('!' :: name ++ ['!']), String.ofList suffix, name.length + 1 + used⟩
    | rest =>
      (tagChars? false [] 0 rest).map fun (suffix, used) =>
        let suffix := name ++ suffix
        if suffix.isEmpty then ⟨"", "!", used⟩
        else ⟨"!", String.ofList suffix, name.length + used⟩

/-- What a directive says. -/
inductive Directive where
  | version (major minor : Nat)
  | handle (name expansion : String)

/-- Reads a number of a version. -/
def versionNumber? (cs : List Char) : Option (Nat × Nat) :=
  let digits := cs.takeWhile Char.isDigit
  if digits.isEmpty || 9 < digits.length then none
  else some (Numeral.digitsValue digits, digits.length)

/-- Reads a version, and how many characters it took. -/
def version? (cs : List Char) : Option (Directive × Nat) :=
  let blanks := (cs.takeWhile isBlank).length
  (versionNumber? (cs.drop blanks)).bind fun (major, used) =>
    let used := blanks + used
    match cs.drop used with
    | '.' :: rest =>
      (versionNumber? rest).map fun (minor, more) => (.version major minor, used + 1 + more)
    | _ => none

/-- Reads a handle, which is one exclamation mark or a name between two. -/
def handle? : List Char → Option (List Char)
  | '!' :: rest =>
    let name := rest.takeWhile isNameChar
    match rest.drop name.length with
    | '!' :: _ => some ('!' :: name ++ ['!'])
    | _ => if name.isEmpty then some ['!'] else none
  | _ => none

/-- Reads a handle and what it stands for. -/
def handleExpansion? (cs : List Char) : Option (Directive × Nat) :=
  let blanks := (cs.takeWhile isBlank).length
  (handle? (cs.drop blanks)).bind fun handle =>
    let used := blanks + handle.length
    let gap := ((cs.drop used).takeWhile isBlank).length
    if gap = 0 then none
    else
      (tagChars? true [] 0 (cs.drop (used + gap))).bind fun (expansion, more) =>
        if expansion.isEmpty || !atGap (cs.drop (used + gap + more)) then none
        else some (.handle (String.ofList handle) (String.ofList expansion), used + gap + more)

/-- Reads a directive from behind its percent sign, up to the end of the line. -/
def directive? (cs : List Char) : Option (Directive × Nat) :=
  let name := cs.takeWhile isNameChar
  let rest := cs.drop name.length
  if !atGap rest then none
  else
    let read :=
      if name = "YAML".toList then version? rest
      else if name = "TAG".toList then handleExpansion? rest
      else none
    read.map fun (directive, used) => (directive, name.length + used)

end AgentFlow.Yaml
