import AgentFlow.Yaml.Token

/-!
# YAML documents

The tokens of a text are put together to the one document that it holds. A node may be named by an
anchor and stands again wherever an alias with its name does; an anchor that comes again names the
later node from then on. An alias inside of its own node cannot be read.

How often aliases may be followed is limited, so that a small text does not stand for a huge
document: a hundred times for every event, which is a scalar, an alias, or the start or end of a
collection. A collection that goes beyond the limit can be taken apart but not kept.

Every function here takes the depth it may still recurse to. Of two calls inside one another one
takes a token at least, so twice the number of tokens is enough.
-/

namespace AgentFlow.Yaml

/-- A node, and how many aliases one follows to read all of it. -/
structure Piece where
  node : Node
  aliases : Nat
  deriving Inhabited

/-- What stands in front of a node: an anchor, and a tag. -/
structure Properties where
  anchor : Option String
  tag : Option RawTag

/-- What is left to be put together, and what is known of the part before. -/
structure Composition where
  tokens : List Token
  /-- The handles of tags, and what they stand for. -/
  handles : List (String × String)
  /-- The nodes that have names; one that is still being read is `none`. -/
  anchors : List (String × Option Piece)
  events : Nat
  /-- How many aliases may be followed. -/
  limit : Nat

/-- A step of putting nodes together, which fails if the text is no document. -/
abbrev Compose := StateT Composition Option

namespace Compose

/-- The next token. -/
def peek? : Compose (Option Token) := do
  return (← get).tokens.head?

/-- Takes the next token. -/
def take : Compose Unit :=
  modify fun state => { state with tokens := state.tokens.tail }

/-- Counts an event. -/
def count : Compose Unit :=
  modify fun state => { state with events := state.events + 1 }

/-- Names a node. -/
def name (anchor : Option String) (piece : Option Piece) : Compose Unit :=
  match anchor with
  | none => pure ()
  | some anchor => modify fun state => { state with anchors := (anchor, piece) :: state.anchors }

/-- Gives the node, now that it is read, to the innermost name that waits for it. -/
def settle (anchor : String) (piece : Piece) :
    List (String × Option Piece) → List (String × Option Piece)
  | [] => []
  | (other, some known) :: rest => (other, some known) :: settle anchor piece rest
  | (other, none) :: rest =>
    if other = anchor then (other, some piece) :: rest
    else (other, none) :: settle anchor piece rest

/-- The whole tag, if its handle is known. -/
def tag (raw : RawTag) : Compose String := do
  if raw.handle.isEmpty then return raw.suffix
  let expansion ← (← get).handles.lookup raw.handle
  return expansion ++ raw.suffix

/-- Takes what stands in front of a node: an anchor and a tag, in either order. -/
def properties : Compose Properties := do
  match (← get).tokens with
  | .anchor anchor :: .tag tag :: _ => take; take; return ⟨some anchor, some tag⟩
  | .tag tag :: .anchor anchor :: _ => take; take; return ⟨some anchor, some tag⟩
  | .anchor anchor :: _ => take; return ⟨some anchor, none⟩
  | .tag tag :: _ => take; return ⟨none, some tag⟩
  | _ => return ⟨none, none⟩

/-- A scalar. The tag `!` says nothing. -/
def scalar (anchor tag : Option String) (text : String) (style : ScalarStyle) : Compose Piece := do
  count
  let piece : Piece := ⟨.scalar text style (tag.filter (· ≠ "!")), 0⟩
  name anchor (some piece)
  return piece

/-- A node that is not there. -/
def absent : Compose Piece :=
  scalar none none "" .plain

/-- The node that an alias stands for. -/
def referent (anchor : String) : Compose Piece := do
  count
  match ← (← get).anchors.lookup anchor with
  | some piece => return ⟨piece.node, piece.aliases + 1⟩
  | none => return ⟨.broken .malformed none, 1⟩

/-- A collection. One with a tag of the document's own, or with too many aliases, cannot be kept. -/
def collection (anchor tag : Option String) (read : Compose Piece) : Compose Piece := do
  count
  name anchor none
  let ⟨node, aliases⟩ ← read
  count
  let isLocal := tag.any fun tag => tag.startsWith "!"
  let piece : Piece :=
    ⟨if isLocal || (← get).limit < aliases then .walkOnly node else node, aliases⟩
  if let some anchor := anchor then
    modify fun state => { state with anchors := settle anchor piece state.anchors }
  return piece

/-- The list of items that come last one first. -/
def listOf (items : List Piece) : Piece :=
  ⟨.array (items.reverse.map Piece.node) .closed,
    items.foldl (fun count item => count + item.aliases) 0⟩

/-- The text of a key; a collection has none. -/
def keyText? : Node → Option String
  | .scalar text _ _ => some text
  | _ => none

/-- The mapping of members that come last one first. -/
def mapOf (members : List (Piece × Piece)) : Piece :=
  ⟨.object (members.reverse.map fun (key, value) => (keyText? key.node, value.node)) .closed,
    members.foldl (fun count (key, value) => count + key.aliases + value.aliases) 0⟩

/-- Reads a node, unless it is absent in front of certain tokens. -/
def orAbsent (stops : Token → Bool) (read : Compose Piece) : Compose Piece := do
  match ← peek? with
  | some token => if stops token then absent else read
  | none => read

/-- What ends a node in an indented list. -/
def endsItem : Token → Bool
  | .item => true
  | .blockEnd => true
  | _ => false

/-- What ends a node in a list that is not indented. -/
def endsFlushItem : Token → Bool
  | .item => true
  | .key => true
  | .value => true
  | .blockEnd => true
  | _ => false

/-- What ends a key or a value in an indented mapping. -/
def endsMember : Token → Bool
  | .key => true
  | .value => true
  | .blockEnd => true
  | _ => false

/-- What ends a value in brackets. -/
def endsInFlow : Token → Bool
  | .comma => true
  | .closeList => true
  | .closeMap => true
  | _ => false

/-- What ends a key in brackets. -/
def endsFlowKey : Token → Bool
  | .value => true
  | token => endsInFlow token

mutual

/-- Reads a node. `indented` says that it may be an indented collection, `flush` that it may be a
list that is not indented. -/
def node (depth : Nat) (indented flush : Bool) : Compose Piece :=
  match depth with
  | 0 => failure
  | depth + 1 => do
    if let some (.reference anchor) ← peek? then
      take
      return ← referent anchor
    let ⟨anchor, raw⟩ ← properties
    let tag ← raw.mapM tag
    match ← peek? with
    | some (.scalar text style) =>
      take
      scalar anchor tag text style
    | some .openList => collection anchor tag do take; flowItems depth true []
    | some .openMap => collection anchor tag do take; flowMembers depth true []
    | some .sequenceStart =>
      if indented then collection anchor tag do take; items depth []
      else other anchor tag
    | some .mappingStart =>
      if indented then collection anchor tag do take; members depth []
      else other anchor tag
    | some .item =>
      if flush then collection anchor tag (flushItems depth [])
      else other anchor tag
    | _ => other anchor tag
where
  /-- Nothing stands behind an anchor or a tag. -/
  other (anchor tag : Option String) : Compose Piece :=
    if anchor.isSome || tag.isSome then scalar anchor tag "" .plain else failure

/-- Reads the items of an indented list. -/
def items (depth : Nat) (done : List Piece) : Compose Piece :=
  match depth with
  | 0 => failure
  | depth + 1 => do
    match ← peek? with
    | some .item =>
      take
      let piece ← orAbsent endsItem (node depth true false)
      items depth (piece :: done)
    | some .blockEnd => take; return listOf done
    | _ => failure

/-- Reads the items of a list that is not indented. -/
def flushItems (depth : Nat) (done : List Piece) : Compose Piece :=
  match depth with
  | 0 => failure
  | depth + 1 => do
    match ← peek? with
    | some .item =>
      take
      let piece ← orAbsent endsFlushItem (node depth true false)
      flushItems depth (piece :: done)
    | _ => return listOf done

/-- Reads the members of an indented mapping. -/
def members (depth : Nat) (done : List (Piece × Piece)) : Compose Piece :=
  match depth with
  | 0 => failure
  | depth + 1 => do
    match ← peek? with
    | some .blockEnd => take; return mapOf done
    | some .key =>
      take
      let key ← orAbsent endsMember (node depth true true)
      let value ← memberValue depth
      members depth ((key, value) :: done)
    | _ => failure

/-- Reads the value of a member of an indented mapping. -/
def memberValue (depth : Nat) : Compose Piece :=
  match depth with
  | 0 => failure
  | depth + 1 => do
    match ← peek? with
    | some .value =>
      take
      orAbsent endsMember (node depth true true)
    | _ => absent

/-- Reads the items of a list in brackets; `first` says that no comma is needed. A key among them
makes a mapping of one member. -/
def flowItems (depth : Nat) (first : Bool) (done : List Piece) : Compose Piece :=
  match depth with
  | 0 => failure
  | depth + 1 => do
    match ← peek? with
    | some .closeList => take; return listOf done
    | some .comma => if first then failure else take
    | _ => if !first then failure
    match ← peek? with
    | some .closeList => take; return listOf done
    | some .key =>
      let piece ← collection none none do
        take
        let key ← pairKey depth
        let value ← flowValue depth
        return mapOf [(key, value)]
      flowItems depth false (piece :: done)
    | _ =>
      let piece ← node depth false false
      flowItems depth false (piece :: done)

/-- Reads the key of a mapping of one member. Where it is absent, the token behind it is lost. -/
def pairKey (depth : Nat) : Compose Piece :=
  match depth with
  | 0 => failure
  | depth + 1 => do
    match ← peek? with
    | some .value => take; absent
    | some .comma => take; absent
    | some .closeList => take; absent
    | _ => node depth false false

/-- Reads the value of a member in brackets. -/
def flowValue (depth : Nat) : Compose Piece :=
  match depth with
  | 0 => failure
  | depth + 1 => do
    match ← peek? with
    | some .value =>
      take
      orAbsent endsInFlow (node depth false false)
    | _ => absent

/-- Reads the members of a mapping in brackets; `first` says that no comma is needed. -/
def flowMembers (depth : Nat) (first : Bool) (done : List (Piece × Piece)) : Compose Piece :=
  match depth with
  | 0 => failure
  | depth + 1 => do
    match ← peek? with
    | some .closeMap => take; return mapOf done
    | some .comma => if first then failure else take
    | _ => if !first then failure
    match ← peek? with
    | some .closeMap => take; return mapOf done
    | some .key =>
      take
      let key ← orAbsent endsFlowKey (node depth false false)
      let value ← flowValue depth
      flowMembers depth false ((key, value) :: done)
    | _ =>
      let key ← node depth false false
      let value ← absent
      flowMembers depth false ((key, value) :: done)

end

/-- The handles that need no declaration. -/
def defaultHandles : List (String × String) := [("!", "!"), ("!!", "tag:yaml.org,2002:")]

/-- Takes the directives in front of a document. The version is given once at most and is 1.1 or
1.2; a handle is declared once at most. -/
def directives (version : Bool) (handles : List (String × String)) :
    List Token → Option (List (String × String) × List Token)
  | .directive (.version major minor) :: rest =>
    if version || major ≠ 1 || (minor ≠ 1 && minor ≠ 2) then none else directives true handles rest
  | .directive (.handle name expansion) :: rest =>
    if (handles.lookup name).isSome then none
    else directives version ((name, expansion) :: handles) rest
  | rest => some (handles, rest)

/-- What ends a document without a node. -/
def endsDocument : Token → Bool
  | .directive _ => true
  | .documentStart => true
  | .documentEnd => true
  | _ => false

/-- Reads the document that the tokens hold. -/
def document : Compose Node := do
  let tokens := (← get).tokens
  let depth := 2 * tokens.length + 2
  let (handles, rest) ← directives false [] tokens
  modify fun state => { state with tokens := rest, handles := handles ++ defaultHandles }
  let explicit := rest.length < tokens.length || rest.head? matches some .documentStart
  let root ←
    if explicit then
      if !(rest.head? matches some .documentStart) then failure
      take
      match ← peek? with
      | none => absent
      | some token => if endsDocument token then absent else node depth true false
    else node depth true false
  if !((← get).tokens.all (· matches .documentEnd)) then failure
  return root.node

end Compose

/-- Reads the document that a text holds. -/
def document? (text : String) : Option Node := do
  let tokens ← tokens? text
  let start (limit : Nat) : Composition := ⟨tokens, [], [], 0, limit⟩
  let (_, state) ← Compose.document.run (start 0)
  let (root, _) ← Compose.document.run (start (100 * state.events))
  return root

end AgentFlow.Yaml
