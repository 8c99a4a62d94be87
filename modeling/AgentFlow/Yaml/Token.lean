import AgentFlow.Json.Node
import AgentFlow.Yaml.Block
import AgentFlow.Yaml.Flow
import AgentFlow.Yaml.Tag

/-!
# Tokens of YAML text

YAML text is cut into tokens from left to right. Tokens say where collections start and end, also
those that are only indented: `Layout` keeps the columns of the open ones, and ends them when a
line starts further left.

What makes a mapping is the colon behind its first key, and a key may be any node that fits one
line and is no longer than 1024 characters. So the places where a key could have started are kept,
one for every depth of brackets, and when a colon comes, the tokens for the key, and for the
mapping if it is a new one, are put in there.
-/

namespace AgentFlow.Yaml

/-- A token of YAML text. -/
inductive Token where
  | documentStart
  | documentEnd
  | directive (directive : Directive)
  | sequenceStart
  | mappingStart
  /-- The end of a collection that is indented. -/
  | blockEnd
  /-- The dash of an item. -/
  | item
  | openList
  | closeList
  | openMap
  | closeMap
  | comma
  | key
  | value
  | reference (name : String)
  | anchor (name : String)
  | tag (tag : RawTag)
  | scalar (text : String) (style : ScalarStyle)

/-- A place where a key could have started. -/
structure KeyPlace where
  /-- Only a key can stand there. -/
  required : Bool
  /-- How many tokens come before. -/
  token : Nat
  place : Place

/-- What has been read of a text. -/
structure Layout where
  tokens : Array Token
  place : Place
  /-- The column of the innermost indented collection, `-1` outside of all. -/
  indent : Int
  /-- The columns of those around it. -/
  outer : List Int
  /-- May a key start here? -/
  keyAllowed : Bool
  /-- The place where a key could have started, for the innermost brackets. -/
  keyPlace : Option KeyPlace
  /-- The same for the brackets around them, of which there are as many. -/
  outerKeys : List (Option KeyPlace)

namespace Layout

/-- Before anything is read. -/
def initial : Layout := ⟨#[], ⟨0, 0, 0⟩, -1, [], true, none, []⟩

/-- Is the place that is read inside brackets? -/
def inFlow (layout : Layout) : Bool :=
  !layout.outerKeys.isEmpty

/-- Adds a token. -/
def push (token : Token) (layout : Layout) : Layout :=
  { layout with tokens := layout.tokens.push token }

/-- Goes on behind the next characters. -/
def advance (count : Nat) (cs : List Char) (layout : Layout) : Layout :=
  { layout with place := layout.place.advance count cs }

/-- Gives up a place where a key could have started; where one had to, that is an error. -/
def dropKey? (layout : Layout) : Option Layout :=
  if layout.keyPlace.any KeyPlace.required then none else some { layout with keyPlace := none }

/-- Notes that a key could start here. -/
def saveKey? (layout : Layout) : Option Layout :=
  if !layout.keyAllowed then some layout
  else
    layout.dropKey?.map fun layout =>
      let required := !layout.inFlow && layout.indent = layout.place.column
      { layout with keyPlace := some ⟨required, layout.tokens.size, layout.place⟩ }

/-- Has a place become too far away for its key? -/
def isStale (layout : Layout) (key : KeyPlace) : Bool :=
  key.place.line < layout.place.line || key.place.index + 1024 < layout.place.index

/-- A place where a key could have started, given up if it is too far away. -/
def fresh? (layout : Layout) : Option KeyPlace → Option (Option KeyPlace)
  | none => some none
  | some key =>
    if !layout.isStale key then some (some key)
    else if key.required then none
    else some none

/-- Gives up the places that have become too far away. -/
def dropStale? (layout : Layout) : Option Layout := do
  let keyPlace ← layout.fresh? layout.keyPlace
  let outerKeys ← layout.outerKeys.mapM layout.fresh?
  return { layout with keyPlace, outerKeys }

/-- Ends the indented collections that are further right than a column. -/
def unroll (column : Int) (layout : Layout) : Layout :=
  if layout.inFlow then layout else go layout.outer layout
where
  /-- Ends the collections from the innermost outwards. -/
  go : List Int → Layout → Layout
    | [], layout => layout
    | outer :: rest, layout =>
      if column < layout.indent then
        go rest
          { layout with tokens := layout.tokens.push .blockEnd, indent := outer, outer := rest }
      else layout

/-- Starts an indented collection in a column, if it is further right than the innermost one. The
token goes in front of those from position `index` on. -/
def roll (column index : Nat) (token : Token) (layout : Layout) : Layout :=
  if layout.inFlow || column ≤ layout.indent then layout
  else
    { layout with
      tokens := layout.tokens.insertIdxIfInBounds index token
      indent := column
      outer := layout.indent :: layout.outer }

/-- Starts an indented collection here. -/
def rollHere (token : Token) (layout : Layout) : Layout :=
  layout.roll layout.place.column layout.tokens.size token

/-! ### What the tokens do to the layout -/

/-- The start of a document, its end, or a directive. -/
def outside? (token : Token) (layout : Layout) : Option Layout :=
  (layout.unroll (-1)).dropKey?.map fun layout =>
    ({ layout with keyAllowed := false }).push token

/-- An opening bracket. -/
def openFlow? (token : Token) (layout : Layout) : Option Layout :=
  layout.saveKey?.map fun layout =>
    let layout :=
      { layout with
        outerKeys := layout.keyPlace :: layout.outerKeys, keyPlace := none, keyAllowed := true }
    layout.push token

/-- A closing bracket. -/
def closeFlow? (token : Token) (layout : Layout) : Option Layout :=
  layout.dropKey?.map fun layout =>
    let layout := { layout with keyAllowed := false }
    match layout.outerKeys with
    | [] => layout.push token
    | keyPlace :: outerKeys => { layout with keyPlace, outerKeys }.push token

/-- A comma. -/
def comma? (layout : Layout) : Option Layout :=
  layout.dropKey?.map fun layout => ({ layout with keyAllowed := true }).push .comma

/-- The dash of an item. -/
def item? (layout : Layout) : Option Layout :=
  if !layout.inFlow && !layout.keyAllowed then none
  else
    (layout.rollHere .sequenceStart).dropKey?.map fun layout =>
      ({ layout with keyAllowed := true }).push .item

/-- The question mark of a key. -/
def key? (layout : Layout) : Option Layout :=
  if !layout.inFlow && !layout.keyAllowed then none
  else
    (layout.rollHere .mappingStart).dropKey?.map fun layout =>
      ({ layout with keyAllowed := !layout.inFlow }).push .key

/-- The colon of a value. -/
def value? (layout : Layout) : Option Layout :=
  match layout.keyPlace with
  | some key =>
    let layout := { layout with tokens := layout.tokens.insertIdxIfInBounds key.token .key }
    let layout := layout.roll key.place.column key.token .mappingStart
    some (({ layout with keyPlace := none, keyAllowed := false }).push .value)
  | none =>
    if !layout.inFlow && !layout.keyAllowed then none
    else
      let layout := layout.rollHere .mappingStart
      some (({ layout with keyAllowed := !layout.inFlow }).push .value)

/-- A token that a key may start with. -/
def node? (token : Token) (layout : Layout) : Option Layout :=
  layout.saveKey?.map fun layout => ({ layout with keyAllowed := false }).push token

/-- A block scalar, which is no key. -/
def block? (token : Token) (layout : Layout) : Option Layout :=
  layout.dropKey?.map fun layout => ({ layout with keyAllowed := true }).push token

end Layout

/-- Skips blanks, comments and line breaks in front of a token. Returns how many characters these
are, and whether a key is allowed behind them. Tabs count as blanks inside brackets and where no
key may start. -/
def skipGap (inFlow keyAllowed lineStart comment : Bool) (used : Nat) : List Char → Nat × Bool
  | [] => (used, keyAllowed)
  | c :: rest =>
    if isBreak c then skipGap inFlow (keyAllowed || !inFlow) true false (used + 1) rest
    else if comment then skipGap inFlow keyAllowed false true (used + 1) rest
    else if c = '\ufeff' && lineStart then skipGap inFlow keyAllowed false false (used + 1) rest
    else if c = ' ' || (c = '\t' && (inFlow || !keyAllowed)) then
      skipGap inFlow keyAllowed false false (used + 1) rest
    else if c = '#' then skipGap inFlow keyAllowed false true (used + 1) rest
    else (used, keyAllowed)

/-- May a plain scalar start with a character? -/
def startsPlain (inFlow : Bool) (c : Char) (rest : List Char) : Bool :=
  !(isBlank c || isBreak c ||
      ['-', '?', ':', ',', '[', ']', '\x7b', '\x7d', '#', '&', '*', '!', '|', '>', '\'', '"', '%',
        '@', '\x60'].contains c) ||
    (c = '-' && !(rest.head?.any isBlank)) ||
    (!inFlow && (c = '?' || c = ':') && !atGap rest)

/-- Reads the token that starts with `c`. Returns the layout behind it, but for its place, and how
many characters of `rest` it takes. -/
def tokenAt? (layout : Layout) (c : Char) (rest : List Char) : Option (Layout × Nat) :=
  let inFlow := layout.inFlow
  let atStart := layout.place.column = 0
  let taking (used : Nat) (layout : Option Layout) : Option (Layout × Nat) :=
    layout.map fun layout => (layout, used)
  match if atStart then documentMark? (c :: rest) else none with
  | some .start => taking 2 (layout.outside? .documentStart)
  | some .stop => taking 2 (layout.outside? .documentEnd)
  | none =>
    if atStart && c = '%' then
      (directive? rest).bind fun (directive, used) =>
        let behind := rest.drop used
        (restOfLine? behind).bind fun more =>
          taking (used + more + breakLength (behind.drop more))
            (layout.outside? (.directive directive))
    else if c = '[' then taking 0 (layout.openFlow? .openList)
    else if c = '\x7b' then taking 0 (layout.openFlow? .openMap)
    else if c = ']' then taking 0 (layout.closeFlow? .closeList)
    else if c = '\x7d' then taking 0 (layout.closeFlow? .closeMap)
    else if c = ',' then taking 0 layout.comma?
    else if c = '-' && atGap rest then taking 0 layout.item?
    else if c = '?' && (inFlow || atGap rest) then taking 0 layout.key?
    else if c = ':' && (inFlow || atGap rest) then taking 0 layout.value?
    else if c = '*' then
      (anchorName? rest).bind fun (name, used) => taking used (layout.node? (.reference name))
    else if c = '&' then
      (anchorName? rest).bind fun (name, used) => taking used (layout.node? (.anchor name))
    else if c = '!' then
      (rawTag? rest).bind fun tag =>
        let behind := rest.drop tag.used
        if atGap behind || (inFlow && behind.head? = some ',') then
          taking tag.used (layout.node? (.tag tag))
        else none
    else if (c = '|' || c = '>') && !inFlow then
      (block? (c = '>') layout.indent rest).bind fun (text, used) =>
        taking used (layout.block? (.scalar text (if c = '>' then .folded else .literal)))
    else if c = '\'' || c = '"' then
      (quoted? c [] .none (layout.place.column + 1) 0 rest).bind fun scalar =>
        taking scalar.used (layout.node? (.scalar scalar.text .quoted))
    else if startsPlain inFlow c rest then
      (plain? inFlow (layout.indent + 1) [] .none layout.place.column 0 (c :: rest)).bind
        fun scalar =>
          taking (scalar.used - 1)
            ((layout.node? (.scalar scalar.text .plain)).map fun layout =>
              { layout with keyAllowed := layout.keyAllowed || scalar.atLineStart })
    else none

/-- Reads tokens up to the end of the text. -/
def scan? (layout : Layout) (cs : List Char) : Option (Array Token) :=
  let (gap, keyAllowed) :=
    skipGap layout.inFlow layout.keyAllowed (layout.place.column = 0) false 0 cs
  let layout := { layout with keyAllowed }.advance gap cs
  match _h : cs.drop gap with
  | [] =>
    layout.dropStale?.bind fun layout =>
      (layout.unroll (-1)).dropKey?.map Layout.tokens
  | c :: rest =>
    (layout.dropStale?.map (Layout.unroll layout.place.column)).bind fun layout =>
      match tokenAt? layout c rest with
      | none => none
      | some (behind, used) => scan? (behind.advance (used + 1) (c :: rest)) (rest.drop used)
termination_by cs.length
decreasing_by
  have := congrArg List.length _h
  simp only [List.length_drop, List.length_cons] at this ⊢
  omega

/-- The tokens of a text. -/
def tokens? (text : String) : Option (List Token) :=
  if text.toList.all isAllowed then (scan? .initial text.toList).map Array.toList else none

end AgentFlow.Yaml
