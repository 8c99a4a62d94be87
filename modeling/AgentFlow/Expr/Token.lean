import AgentFlow.Expr.Basic
import AgentFlow.Expr.DenyList
import AgentFlow.Expr.Error

/-!
# Tokens of expressions

A text is cut into tokens from left to right; blanks between tokens are skipped. A token is the
longest piece in front of the rest that is

* a number: digits, with at most one point among them, which a digit has to follow;
* a text in single or double quotes, in which a backslash takes the next character as it is, except
  that `\n`, `\t` and `\r` stand for the control characters;
* a word: a letter, `_` or `$`, then letters, digits, `_` and `$`, all of them ASCII;
* a parenthesis or an operator.

Some words are literals or operators, and a word on the deny-list is refused here already, so none
reaches the parser. The last token is the end of the text. `position` counts bytes of UTF-8.
-/

namespace AgentFlow

/-- The operators as they are written. Which of them takes one operand is seen by where it
stands. -/
inductive Symbol where
  | op (op : BinaryOp)
  | bang
  | dot
  deriving DecidableEq, Repr, Inhabited

/-- What a token means. -/
inductive Lexeme where
  | number (value : Float)
  | string (text : String)
  | identifier (name : String)
  | boolean (value : Bool)
  | null
  | undefined
  | symbol (symbol : Symbol)
  | leftParen
  | rightParen
  | endOfText
  deriving Inhabited

/-- A token: what it means, how it is written, and at which byte it starts. -/
structure Token where
  lexeme : Lexeme
  raw : String
  position : Nat
  deriving Inhabited

namespace Symbol

/-- The canonical spelling of an operator. -/
def text : Symbol → String
  | op o => o.symbol
  | bang => "!"
  | dot => "."

/-- The spellings of the operators, longer ones first. -/
def spellings : List (List Char × Symbol) :=
  [(['=', '=', '='], op .strictEq), (['!', '=', '='], op .strictNe),
    (['=', '='], op .eq), (['!', '='], op .ne), (['<', '='], op .le), (['>', '='], op .ge),
    (['&', '&'], op .and), (['|', '|'], op .or),
    (['<'], op .lt), (['>'], op .gt), (['!'], bang), (['+'], op .add), (['-'], op .sub),
    (['*'], op .mul), (['/'], op .div), (['%'], op .mod), (['.'], dot)]

/-- The operator in front of a text, with its spelling. -/
def ofPrefix? (cs : List Char) : Option (List Char × Symbol) :=
  spellings.find? fun entry => entry.1.isPrefixOf cs

end Symbol

namespace Token

/-- The bytes of UTF-8 in a text. -/
def byteSize (cs : List Char) : Nat :=
  cs.foldl (fun size c => size + c.utf8Size) 0

/-- May a word start with this character? -/
def startsWord (c : Char) : Bool :=
  c.isAlpha || c = '_' || c = '$'

/-- May a word go on with this character? -/
def continuesWord (c : Char) : Bool :=
  c.isAlphanum || c = '_' || c = '$'

/-- How much of a text continues a number whose first digit stands in front of it. -/
def numberTail (rest : List Char) : List Char :=
  let whole := rest.takeWhile Char.isDigit
  match rest.dropWhile Char.isDigit with
  | '.' :: d :: more =>
    if d.isDigit then whole ++ '.' :: d :: more.takeWhile Char.isDigit else whole
  | _ => whole

/-- The character that an escape stands for. -/
def unescape (c : Char) : Char :=
  if c = 'n' then '\n' else if c = 't' then '\t' else if c = 'r' then '\r' else c

/-- The text up to the closing quote: what it means, and how it is written, closing quote
included. -/
def quoted? (quote : Char) : List Char → Option (List Char × List Char)
  | [] => none
  | c :: rest =>
    if c = quote then some ([], [c])
    else if c = '\\' then
      match rest with
      | [] => none
      | e :: rest => (quoted? quote rest).map fun (text, raw) => (unescape e :: text, c :: e :: raw)
    else (quoted? quote rest).map fun (text, raw) => (c :: text, c :: raw)

/-- What a word means. -/
def word (name : String) : Except ExprError Lexeme :=
  if name = "true" then .ok (.boolean true)
  else if name = "false" then .ok (.boolean false)
  else if name = "null" then .ok .null
  else if name = "undefined" then .ok .undefined
  else if name = "and" then .ok (.symbol (.op .and))
  else if name = "or" then .ok (.symbol (.op .or))
  else if name = "not" then .ok (.symbol .bang)
  else if isDenied name then .error (.blockedIdentifier name)
  else .ok (.identifier name)

/-- The token that starts with `c`: what it means, and how much of `rest` belongs to it. -/
def lexemeAt (position : Nat) (c : Char) (rest : List Char) :
    Except ExprError (Lexeme × List Char) :=
  if c.isDigit then
    let tail := numberTail rest
    .ok (.number ((Numeral.decimal? (c :: tail)).getD (0 / 0)), tail)
  else if c = '"' || c = '\'' then
    match quoted? c rest with
    | none => .error (.unterminatedString position)
    | some (text, tail) => .ok (.string (String.ofList text), tail)
  else if startsWord c then
    let tail := rest.takeWhile continuesWord
    (word (String.ofList (c :: tail))).map fun lexeme => (lexeme, tail)
  else if c = '(' then .ok (.leftParen, [])
  else if c = ')' then .ok (.rightParen, [])
  else
    match Symbol.ofPrefix? (c :: rest) with
    | some (spelling, symbol) => .ok (.symbol symbol, spelling.tail)
    | none => .error (.unexpectedCharacter c position)

/-- The tokens of a text that starts at a byte position. -/
def scan (position : Nat) : List Char → Except ExprError (List Token)
  | [] => .ok [⟨.endOfText, "", position⟩]
  | c :: rest =>
    if Text.isBlank c then scan (position + c.utf8Size) rest
    else
      match lexemeAt position c rest with
      | .error e => .error e
      | .ok (lexeme, tail) =>
        match scan (position + byteSize (c :: tail)) (rest.drop tail.length) with
        | .error e => .error e
        | .ok tokens => .ok (⟨lexeme, String.ofList (c :: tail), position⟩ :: tokens)
termination_by cs => cs.length
decreasing_by
  · simp
  · simp only [List.length_drop, List.length_cons]; omega

/-- The tokens of a text. -/
def tokenize (source : String) : Except ExprError (List Token) :=
  scan 0 source.toList

/-- Is this the end of the text? -/
def isEnd (token : Token) : Bool :=
  match token.lexeme with
  | .endOfText => true
  | _ => false

/-- The operator that a token is. -/
def symbol? (token : Token) : Option Symbol :=
  match token.lexeme with
  | .symbol s => some s
  | _ => none

end Token

end AgentFlow
