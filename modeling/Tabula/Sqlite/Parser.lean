import Tabula.Sqlite.Keyword
import Tabula.Sqlite.Token

/-!
# Parsers

A parser takes tokens from the front of a list. Where it fails it leaves the tokens that it could
not take, the first of which is the one at fault. A word is taken for a keyword wherever one is
asked for, and for a name only after that.
-/

namespace Tabula.Sqlite

/-- A parser: on failure with the tokens from the one at fault on. -/
def Parser (α : Type) : Type := List Token → Except (List Token) (α × List Token)

namespace Parser

instance : Monad Parser where
  pure a := fun ts => .ok (a, ts)
  bind p f := fun ts =>
    match p ts with
    | .ok (a, rest) => f a rest
    | .error at_fault => .error at_fault

/-- Fails at the next token. -/
def fail {α : Type} : Parser α := fun ts => .error ts

/-- The next token. -/
def peek : Parser (Option Token) := fun ts => .ok (ts.head?, ts)

/-- The tokens that follow. -/
def ahead : Parser (List Token) := fun ts => .ok (ts, ts)

/-- The text from the next token on. -/
def here : Parser (List Char) := fun ts => .ok ((ts.head?.map Token.here).getD [], ts)

/-- How many bytes some characters are. -/
def byteCount (cs : List Char) : Nat := cs.foldl (fun n c => n + c.utf8Size) 0

/-- How many bytes of the statement there are from the next token on. -/
def remaining : Parser Nat := do return byteCount (← here)

/-- Passes the next token. -/
def skip : Parser Unit := fun ts => .ok ((), ts.tail)

/-- The next token is a keyword. -/
def isKeyword (k : String) : Option Token → Bool
  | some ⟨.word s, _, _⟩ => capitals s == k
  | _ => false

/-- The next token is a symbol. -/
def isSymbol (s : String) : Option Token → Bool
  | some ⟨.symbol t, _, _⟩ => t == s
  | _ => false

/-- Takes a keyword if it is there. -/
def keyword? (k : String) : Parser Bool := do
  if isKeyword k (← peek) then skip; return true else return false

/-- Takes a keyword. -/
def keyword (k : String) : Parser Unit := do if ← keyword? k then return () else fail

/-- Takes one of some keywords if one is there. -/
def oneOf? (ks : List String) : Parser Bool := do
  let next ← peek
  if ks.any (isKeyword · next) then skip; return true else return false

/-- Takes a symbol if it is there. -/
def symbol? (s : String) : Parser Bool := do
  if isSymbol s (← peek) then skip; return true else return false

/-- Takes a symbol. -/
def symbol (s : String) : Parser Unit := do if ← symbol? s then return () else fail

/-- The name that a token can be. A text can be one too. -/
def nameOf? : Token → Option String
  | ⟨.word s, _, _⟩ => if isName s then some s else none
  | ⟨.quotedName s _, _, _⟩ => some s
  | ⟨.text s, _, _⟩ => some s
  | _ => none

/-- The name that a token behind an expression can give it. -/
def aliasOf? : Token → Option String
  | ⟨.word s, _, _⟩ => if isAlias s then some s else none
  | t => nameOf? t

/-- Takes a name. -/
def name : Parser String := do
  match (← peek).bind nameOf? with
  | some s => skip; return s
  | none => fail

/-- Takes a name that is given to what stands before it, if there is one. -/
def alias? : Parser (Option String) := do
  if ← keyword? "AS" then return some (← name)
  else
    match (← peek).bind aliasOf? with
    | some s => skip; return some s
    | none => return none

/-- Takes one or more things with commas between them. -/
def listOf {α : Type} (item : Parser α) : Nat → Parser (List α)
  | 0 => fail
  | fuel + 1 => do
    let a ← item
    if ← symbol? "," then return a :: (← listOf item fuel) else return [a]

end Parser

end Tabula.Sqlite
