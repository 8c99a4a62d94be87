import AgentFlow.Json.Literal
import AgentFlow.Json.Node

/-!
# Reading JSON text

A text is cut into tokens, and the tokens are put together to a `Node` by a machine with a stack of
open brackets. Both run once over their input. Nothing is decided about types here: `Node` keeps
the order of the text, and the readers of typed data walk it.

Brackets nest at most 127 deep in data that is kept.
-/

namespace AgentFlow.Json

/-- A token of JSON text. -/
inductive Token where
  | arrayOpen
  | arrayClose
  | objectOpen
  | objectClose
  | comma
  | colon
  /-- `null`, a boolean or a number. -/
  | atom (value : Json)
  | text (value : String)
  /-- A text in quotes that can be skipped but not read. -/
  | oddText
  /-- A text in quotes that is broken. -/
  | brokenText (whenRead whenSkipped : Fault)
  /-- A broken token of any other kind. -/
  | broken (whenRead : Fault) (whenSkipped : Option Fault)

/-! ### Text in quotes -/

/-- Four hexadecimal digits in front of a text; a text of fewer than four bytes ends too early. -/
def hexUnit (cs : List Char) : Except Fault Nat :=
  match cs with
  | a :: b :: c :: d :: _ =>
    match Numeral.natural? 16 [a, b, c, d] with
    | some unit => .ok unit
    | none => .error .malformed
  | short =>
    .error (if 4 ≤ short.foldl (fun size c => size + c.utf8Size) 0 then .malformed else .endOfText)

/-- The character of an escape of one letter. -/
def plainEscape? (c : Char) : Option Char :=
  if c = '"' || c = '\\' || c = '/' then some c
  else if c = 'b' then some '\x08'
  else if c = 'f' then some '\x0c'
  else if c = 'n' then some '\n'
  else if c = 'r' then some '\r'
  else if c = 't' then some '\t'
  else none

/-- What stands behind a leading surrogate. -/
inductive Trail where
  /-- The trailing surrogate. -/
  | pair (low : Nat)
  /-- No trailing surrogate: the leading one stands alone. -/
  | alone
  /-- An escape that is itself broken, and is reported as such. -/
  | unknown

/-- Looks behind a leading surrogate. -/
def trail : List Char → Trail
  | [] => .unknown
  | ['\\'] => .unknown
  | '\\' :: 'u' :: rest =>
    match hexUnit rest with
    | .ok low => if 0xDC00 ≤ low && low ≤ 0xDFFF then .pair low else .alone
    | .error _ => .unknown
  | _ => .alone

/-- Reads text up to the closing quote. `out` holds the characters read, last one first, `used`
counts the characters of the source, and `odd` says that a surrogate stood alone. -/
def scanText (out : List Char) (odd : Bool) (used : Nat) : List Char → Token × Nat
  | [] => (.brokenText (if odd then .malformed else .endOfText) .endOfText, used)
  | '"' :: _ => (if odd then .oddText else .text (String.ofList out.reverse), used + 1)
  | ['\\'] => (.brokenText (if odd then .malformed else .endOfText) .endOfText, used + 1)
  | '\\' :: 'u' :: a :: b :: c :: d :: rest =>
    match hexUnit [a, b, c, d] with
    | .error fault => (.brokenText (if odd then .malformed else fault) fault, used + 2)
    | .ok unit =>
      if 0xDC00 ≤ unit && unit ≤ 0xDFFF then scanText out true (used + 6) rest
      else if 0xD800 ≤ unit && unit ≤ 0xDBFF then
        match rest, trail rest with
        | '\\' :: 'u' :: _ :: _ :: _ :: _ :: rest, .pair low =>
          let c := Char.ofNat (0x10000 + (unit - 0xD800) * 0x400 + (low - 0xDC00))
          scanText (c :: out) odd (used + 12) rest
        | rest, .unknown => scanText out odd (used + 6) rest
        | rest, _ => scanText out true (used + 6) rest
      else scanText (Char.ofNat unit :: out) odd (used + 6) rest
  | '\\' :: c :: rest =>
    if c = 'u' then
      let fault := match hexUnit rest with | .error fault => fault | .ok _ => .malformed
      (.brokenText (if odd then .malformed else fault) fault, used + 2)
    else
      match plainEscape? c with
      | some c => scanText (c :: out) odd (used + 2) rest
      | none => (.brokenText .malformed .malformed, used + 2)
  | c :: rest =>
    if c.val < 0x20 then (.brokenText .malformed .malformed, used + 1)
    else scanText (c :: out) odd (used + 1) rest

/-! ### Numbers -/

/-- The fault of a number that breaks off, where digits had to follow. A number that nobody reads
is malformed even at the end of the text. -/
def missingDigits (rest : List Char) : Token :=
  .broken (if rest.isEmpty then .endOfText else .malformed) (some .malformed)

/-- The token of a literal with its length. -/
def literalToken (literal : Literal) (used : Nat) : Token × Nat :=
  match literal.value? with
  | some n => (.atom (.number n), used)
  | none => (.broken .malformed none, used)

/-- Reads the exponent of a literal, from the text behind `e`. -/
def scanExponent (literal : Literal) (used : Nat) (rest : List Char) : Token × Nat :=
  let (sign, signUsed, rest) :=
    match rest with
    | '+' :: rest => (false, 1, rest)
    | '-' :: rest => (true, 1, rest)
    | rest => (false, 0, rest)
  let digits := rest.takeWhile Char.isDigit
  if digits.isEmpty then (missingDigits rest, used)
  else
    literalToken { literal with exponent := some (sign, digits) } (used + signUsed + digits.length)

/-- Reads what follows the whole part of a literal. -/
def scanFraction (literal : Literal) (used : Nat) (rest : List Char) : Token × Nat :=
  match rest with
  | '.' :: rest =>
    let digits := rest.takeWhile Char.isDigit
    if digits.isEmpty then (missingDigits rest, used)
    else
      let literal := { literal with fraction := digits }
      let used := used + 1 + digits.length
      match rest.drop digits.length with
      | 'e' :: rest => scanExponent literal (used + 1) rest
      | 'E' :: rest => scanExponent literal (used + 1) rest
      | _ => literalToken literal used
  | 'e' :: rest => scanExponent literal (used + 1) rest
  | 'E' :: rest => scanExponent literal (used + 1) rest
  | _ => literalToken literal used

/-- Reads a number from behind its sign; a whole part does not start with a zero unless it is
zero. -/
def scanNumber (negative : Bool) (used : Nat) (rest : List Char) : Token × Nat :=
  let digits := rest.takeWhile Char.isDigit
  match digits with
  | [] => (missingDigits rest, used)
  | '0' :: _ :: _ => (.broken .malformed (some .malformed), used)
  | _ => scanFraction ⟨negative, digits, [], none⟩ (used + digits.length) (rest.drop digits.length)

/-! ### Tokens -/

/-- Reads a word that has to follow its first letter. -/
def scanWord (word : List Char) (value : Json) (rest : List Char) : Token × Nat :=
  if word.isPrefixOf rest then (.atom value, word.length)
  else
    let fault : Fault := if rest.isPrefixOf word then .endOfText else .malformed
    (.broken fault (some fault), 0)

/-- The blanks of JSON. -/
def isSpace (c : Char) : Bool :=
  c = ' ' || c = '\t' || c = '\n' || c = '\r'

/-- The token that starts with `c`, and how many characters behind `c` belong to it. -/
def token (c : Char) (rest : List Char) : Token × Nat :=
  match c with
  | '[' => (.arrayOpen, 0)
  | ']' => (.arrayClose, 0)
  | '\x7b' => (.objectOpen, 0)
  | '\x7d' => (.objectClose, 0)
  | ',' => (.comma, 0)
  | ':' => (.colon, 0)
  | '"' => scanText [] false 0 rest
  | 'n' => scanWord ['u', 'l', 'l'] .null rest
  | 't' => scanWord ['r', 'u', 'e'] (.bool true) rest
  | 'f' => scanWord ['a', 'l', 's', 'e'] (.bool false) rest
  | '-' => scanNumber true 0 rest
  | c =>
    if c.isDigit then
      let (token, used) := scanNumber false 0 (c :: rest)
      (token, used - 1)
    else (.broken .malformed (some .malformed), 0)

/-- Does the text end with this token, because it is broken? -/
def Token.isLast : Token → Bool
  | .brokenText _ _ => true
  | .broken _ (some _) => true
  | _ => false

/-- Cuts a text into tokens, up to the first that is broken. -/
def tokens (out : List Token) : List Char → List Token
  | [] => out.reverse
  | c :: rest =>
    if isSpace c then tokens out rest
    else
      match token c rest with
      | (t, used) => if t.isLast then (t :: out).reverse else tokens (t :: out) (rest.drop used)
termination_by cs => cs.length
decreasing_by
  · simp
  · simp only [List.length_drop, List.length_cons]; omega

/-! ### Brackets -/

/-- A bracket that is open, with what it holds so far, last one first. -/
inductive Frame where
  | array (items : List Node)
  /-- `key` belongs to the member whose value comes next. -/
  | object (members : List (Option String × Node)) (key : Option String)

/-- Puts a value into an open bracket. -/
def Frame.push (node : Node) : Frame → Frame
  | array items => array (node :: items)
  | object members key => object ((key, node) :: members) none

/-- The node of a bracket that ends. -/
def Frame.close (ending : Ending) : Frame → Node
  | array items => .array items.reverse ending
  | object members _ => .object members.reverse ending

/-- The whole text, if it breaks at `node` inside the open brackets. -/
def collapse (fault : Fault) (node : Node) : List Frame → Node
  | [] => node
  | frame :: outer => collapse fault ((frame.push node).close (.broken fault)) outer

/-- The whole text, if it breaks inside the open brackets where no value stands. -/
def breakOff (fault : Fault) : List Frame → Node
  | [] => .broken fault (some fault)
  | frame :: outer => collapse fault (frame.close (.broken fault)) outer

/-- What has to come next. -/
inductive Expected where
  /-- A value; behind an opening bracket also the closing one. -/
  | value (orClose : Bool)
  /-- A key; behind an opening bracket also the closing one. -/
  | key (orClose : Bool)
  | colon
  /-- A comma or the closing bracket. -/
  | more

/-- Puts tokens together. Returns the value and the tokens behind it. -/
def build (open_ : List Frame) (expected : Expected) : List Token → Node × List Token
  | [] => (collapseEnd open_ expected, [])
  | t :: rest =>
    match expected, t, open_ with
    | .value _, .arrayOpen, _ => build (.array [] :: open_) (.value true) rest
    | .value _, .objectOpen, _ => build (.object [] none :: open_) (.key true) rest
    | .value true, .arrayClose, frame :: outer => place (frame.close .closed) outer rest
    | .value _, .atom v, _ => place (.value v) open_ rest
    | .value _, .text s, _ => place (.value (.string s)) open_ rest
    | .value _, .oddText, _ => place (.broken .malformed none) open_ rest
    | .value _, .brokenText whenRead whenSkipped, _ =>
      (collapse whenRead (.broken whenRead (some whenSkipped)) open_, [])
    | .value _, .broken whenRead none, _ => place (.broken whenRead none) open_ rest
    | .value _, .broken whenRead whenSkipped, _ =>
      (collapse whenRead (.broken whenRead whenSkipped) open_, [])
    | .value _, _, _ => (collapse .malformed (.broken .malformed (some .malformed)) open_, [])
    | .key _, .text s, .object members _ :: outer =>
      build (.object members (some s) :: outer) .colon rest
    | .key _, .oddText, .object members _ :: outer =>
      build (.object members none :: outer) .colon rest
    | .key _, .brokenText whenRead _, _ => (breakOff whenRead open_, [])
    | .key true, .objectClose, frame :: outer => place (frame.close .closed) outer rest
    | .key _, _, _ => (breakOff .malformed open_, [])
    | .colon, .colon, _ => build open_ (.value false) rest
    | .colon, _, _ => (collapse .malformed (.broken .malformed (some .malformed)) open_, [])
    | .more, .comma, .array _ :: _ => build open_ (.value false) rest
    | .more, .comma, .object _ _ :: _ => build open_ (.key false) rest
    | .more, .arrayClose, .array items :: outer =>
      place ((Frame.array items).close .closed) outer rest
    | .more, .objectClose, .object members key :: outer =>
      place ((Frame.object members key).close .closed) outer rest
    | .more, _, _ => (breakOff .malformed open_, [])
where
  /-- A value is complete: it is the whole text, or goes into the innermost bracket. -/
  place (node : Node) : List Frame → List Token → Node × List Token
    | [], rest => (node, rest)
    | frame :: outer, rest => build (frame.push node :: outer) .more rest
  /-- The text ends inside the open brackets. -/
  collapseEnd (open_ : List Frame) : Expected → Node
    | .value _ => collapse .endOfText (.broken .endOfText (some .endOfText)) open_
    | .colon => collapse .endOfText (.broken .endOfText (some .endOfText)) open_
    | _ => breakOff .endOfText open_

end AgentFlow.Json
