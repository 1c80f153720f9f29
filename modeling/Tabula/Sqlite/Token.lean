import Tabula.Sql.Piece
import Tabula.Sqlite.Cell

/-!
# Tokens of a statement

`Token.scan` cuts the first statement of a text into tokens; blanks and comments stand between
them. A token knows its own text and the text behind it, from which the place of an error and the
name of a column without a name are taken.
-/

namespace Tabula.Sqlite

open Sql (Span)

/-- How a parameter is written. -/
inductive ParameterMark where
  /-- without a number, which is then the next one -/
  | next
  /-- with its number -/
  | number (n : Nat)
  /-- with a name; where it stands again it is the same parameter -/
  | named (s : String)
  /-- with a number of something that is no parameter -/
  | foreign (s : String)
  deriving DecidableEq, Inhabited

/-- What a token is. -/
inductive Lexeme where
  /-- a keyword or an identifier, as written -/
  | word (s : String)
  /-- an identifier between marks, and whether they are quotation marks -/
  | quotedName (s : String) (double : Bool)
  /-- a text -/
  | text (s : String)
  /-- an integer without a sign -/
  | whole (n : Nat)
  /-- any other literal -/
  | literal (c : Cell)
  /-- a parameter -/
  | parameter (p : ParameterMark)
  /-- an operator or a mark of punctuation -/
  | symbol (s : String)
  /-- text that is no token -/
  | illegal
  deriving DecidableEq, Inhabited

/-- A token with its text. -/
structure Token where
  /-- what it is -/
  lexeme : Lexeme
  /-- its text -/
  source : List Char
  /-- the text behind it -/
  after : List Char
  deriving Inhabited

namespace Token

/-- The text from the token on. -/
def here (t : Token) : List Char := t.source ++ t.after

/-! ## Characters -/

/-- A character that a run of blanks can begin with. The byte order mark is a blank too. -/
def isGap (c : Char) : Bool :=
  c = ' ' || c = '\t' || c = '\n' || c = '\x0c' || c = '\r' || c = '\ufeff'

/-- A character inside a run of blanks. -/
def isInnerGap (c : Char) : Bool := c = ' ' || ('\t' ≤ c && c ≤ '\r')

/-- A character that an identifier can begin with; all beyond ASCII count as letters. -/
def isWordStart (c : Char) : Bool := Sql.isNameStart c || c.toNat ≥ 0x80

/-- A character inside an identifier. -/
def isWordChar (c : Char) : Bool := Sql.isNameChar c || c = '$' || c.toNat ≥ 0x80

/-! ## Marks -/

/-- A text between marks, without them, a doubled mark counting as one. -/
def unquote (q : Char) : List Char → List Char
  | [] => []
  | [c] => if c = q then [] else [c]
  | c :: d :: cs =>
    if c = q then (if d = q then q :: unquote q cs else unquote q (d :: cs))
    else c :: unquote q (d :: cs)

/-- A text between marks ends with a mark that is not one of a doubled pair. -/
def isClosed (q : Char) : List Char → Bool
  | [] => false
  | [c] => c = q
  | c :: d :: cs => if c = q then d = q && isClosed q cs else isClosed q (d :: cs)

/-- The text of a comment after the characters that open it. -/
def commentBody : List Char → Span
  | [] => ([], [])
  | '*' :: '/' :: cs => (['*', '/'], cs)
  | c :: cs => (commentBody cs).prepend [c]

/-! ## Numbers -/

/-- The digits at the start of a text, with lines between them. -/
def digitRun (isDigit : Char → Bool) (cs : List Char) : List Char :=
  cs.takeWhile fun c => isDigit c || c = '_'

/-- The length of an exponent at the start of a text. -/
def exponentLength : List Char → Nat
  | c :: r =>
    let sign := match r with
      | '+' :: _ => 1
      | '-' :: _ => 1
      | _ => 0
    if (c = 'e' || c = 'E') && ((r.drop sign).head?.any Char.isDigit) then
      1 + sign + (digitRun Char.isDigit (r.drop sign)).length
    else 0
  | [] => 0

/-- The length of a decimal numeral: digits, a point and an exponent. -/
def numeralLength (cs : List Char) : Nat :=
  let whole := (digitRun Char.isDigit cs).length
  let rest := cs.drop whole
  let fraction := match rest with
    | '.' :: r => 1 + (digitRun Char.isDigit r).length
    | _ => 0
  whole + fraction + exponentLength (rest.drop fraction)

/-- A hexadecimal digit. -/
def isHexDigit (c : Char) : Bool := (Text.hexDigit? c).isSome

/-- Every line stands between two digits. -/
def isSeparated (isDigit : Char → Bool) : List Char → Bool
  | a :: '_' :: b :: cs => isDigit a && isDigit b && isSeparated isDigit (b :: cs)
  | [_, '_'] => false
  | c :: cs => c ≠ '_' && isSeparated isDigit cs
  | [] => true

/-- The literal of a decimal numeral. -/
def decimalLiteral (cs : List Char) : Lexeme :=
  let ds := cs.filter (· ≠ '_')
  if !isSeparated Char.isDigit cs then .illegal
  else if ds.all Char.isDigit then .whole (Text.digitsValue ds)
  else .literal ((Cell.numberOf? ds).getD .null)

/-- The literal of hexadecimal digits: the bits of a word. -/
def hexLiteral (cs : List Char) : Lexeme :=
  let n := (cs.filterMap Text.hexDigit?).foldl (fun n d => 16 * n + d) 0
  if !isSeparated isHexDigit cs || !fitsUnsigned 64 n then .illegal
  else if fitsSigned 64 n then .whole n
  else .literal (.integer (.ofNat n))

/-- The number at the start of a text and its length. Characters of an identifier behind it belong
to it and spoil it. -/
def number (cs : List Char) : Lexeme × Nat :=
  let (l, n) := match cs with
    | '0' :: x :: d :: r =>
      if (x = 'x' || x = 'X') && isHexDigit d then
        let ds := digitRun isHexDigit (d :: r)
        (hexLiteral ds, 2 + ds.length)
      else
        let n := numeralLength cs
        (decimalLiteral (cs.take n), n)
    | cs =>
      let n := numeralLength cs
      (decimalLiteral (cs.take n), n)
  match ((cs.drop n).takeWhile isWordChar).length with
  | 0 => (l, n)
  | k + 1 => (.illegal, n + k + 1)

/-! ## Bytes -/

/-- The bytes of hexadecimal digits, if they are an even number of such. -/
def hexBytes? : List Char → Option (List UInt8)
  | [] => some []
  | a :: b :: cs => do
    let a ← Text.hexDigit? a
    let b ← Text.hexDigit? b
    return UInt8.ofNat (16 * a + b) :: (← hexBytes? cs)
  | [_] => none

/-- The bytes behind the opening mark and their length with the closing mark. -/
def bytes (cs : List Char) : Lexeme × Nat :=
  let ds := cs.takeWhile (· ≠ '\'')
  let closed := ds.length < cs.length
  let length := if closed then ds.length + 1 else ds.length
  match hexBytes? ds with
  | some bs => (if closed then .literal (.blob bs) else .illegal, length)
  | none => (.illegal, length)

/-! ## Parameters -/

/-- The length of the name of a parameter, and whether it can be one. Inside it a double colon may
stand, and at its end text in parentheses. -/
def nameLength (named : Bool) : List Char → Nat × Bool
  | ':' :: ':' :: cs =>
    let (n, ok) := nameLength named cs
    (n + 2, ok)
  | c :: cs =>
    if isWordChar c then
      let (n, ok) := nameLength true cs
      (n + 1, ok)
    else if c = '(' && named then
      let inner := cs.takeWhile fun c => !isInnerGap c && c ≠ ')'
      if (cs.drop inner.length).head? = some ')' then (inner.length + 2, true)
      else (inner.length + 1, false)
    else (0, named)
  | [] => (0, named)

/-- The parameter that begins with a mark and goes on so, and its length. -/
def parameter (c : Char) (cs : List Char) : Lexeme × Nat :=
  let (n, ok) := nameLength false cs
  let s := String.ofList (c :: cs.take n)
  if !ok then (.illegal, n + 1)
  else if c = '#' && cs.head?.any Char.isDigit then (.parameter (.foreign s), n + 1)
  else (.parameter (.named s), n + 1)

/-! ## Tokens -/

/-- The symbols, of two symbols with the same beginning the longer one first. -/
def symbols : List String :=
  ["->>", "->", "==", "<=", "<>", "<<", ">=", ">>", "!=", "||", "(", ")", ",", ";", "*", ".", "=",
   "<", ">", "+", "-", "/", "%", "&", "|", "~"]

/-- The symbol at the start of a text, and its length. -/
def symbol (cs : List Char) : Lexeme × Nat :=
  match symbols.find? fun s => s.toList.isPrefixOf cs with
  | some s => (.symbol s, s.length)
  | none => (.illegal, 1)

/-- A name or a text behind its opening mark, and the length with both marks. -/
def marked (q : Char) (make : String → Lexeme) (cs : List Char) : Lexeme × Nat :=
  let body := (Sql.quotedBody q cs).1
  (if isClosed q body then make (String.ofList (unquote q body)) else .illegal, 1 + body.length)

/-- A name behind an opening bracket, and the length with the brackets. -/
def bracketed (cs : List Char) : Lexeme × Nat :=
  let body := cs.takeWhile (· ≠ ']')
  if body.length < cs.length then (.quotedName (String.ofList body) false, 2 + body.length)
  else (.illegal, 1 + body.length)

/-- How many characters of blanks or comments stand at the start of a text. -/
def gapLength (c : Char) (cs : List Char) : Nat :=
  if c = '\ufeff' then 1
  else if isGap c then 1 + (cs.takeWhile isInnerGap).length
  else
    match c, cs with
    | '-', '-' :: cs => 2 + (cs.takeWhile (· ≠ '\n')).length
    | '/', '*' :: d :: cs => 2 + (commentBody (d :: cs)).1.length
    | _, _ => 0

/-- The lexeme at the start of a text, and its length. -/
def first (c : Char) (cs : List Char) : Lexeme × Nat :=
  if c = '\'' then marked c .text cs
  else if c = '"' then marked c (.quotedName · true) cs
  else if c = '\x60' then marked c (.quotedName · false) cs
  else if c = '[' then bracketed cs
  else if c = '?' then
    let ds := cs.takeWhile Char.isDigit
    (.parameter (if ds = [] then .next else .number (Text.digitsValue ds)), 1 + ds.length)
  else if c = '$' || c = '@' || c = ':' || c = '#' then parameter c cs
  else if (c = 'x' || c = 'X') && cs.head? = some '\'' then
    let (l, n) := bytes (cs.drop 1)
    (l, n + 2)
  else if c.isDigit || (c = '.' && cs.head?.any Char.isDigit) then number (c :: cs)
  else if isWordStart c then
    let body := cs.takeWhile isWordChar
    (.word (String.ofList (c :: body)), 1 + body.length)
  else symbol (c :: cs)

/-- What ends a statement. -/
def ending : Lexeme := .symbol ";"

/-- The tokens up to the end of a statement, given whether one of its tokens has been read and how
many characters belong to the token before. -/
def scanFrom : Bool → Nat → List Char → List Token
  | _, _, [] => []
  | begun, skip + 1, _ :: cs => scanFrom begun skip cs
  | begun, 0, c :: cs =>
    match gapLength c cs with
    | n + 1 => scanFrom begun n cs
    | 0 =>
      let (l, n) := first c cs
      let t : Token := ⟨l, (c :: cs).take n, (c :: cs).drop n⟩
      if l ≠ ending then t :: scanFrom true (n - 1) cs
      else if begun then [t]
      else scanFrom false (n - 1) cs

/-- The tokens of the first statement of a text, with the semicolon behind it if there is one. The
text has no null characters. -/
def scan (cs : List Char) : List Token := scanFrom false 0 cs

end Token

end Tabula.Sqlite
