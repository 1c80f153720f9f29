import Tabula.Json.Number
import Tabula.Text.Numeral

/-!
# What a text says, as far as it says it

`Draft.read` reads a JSON text and never fails: a text that stops being JSON yields a draft that
stops at the same place. So whoever decodes a draft from left to right meets the faults of the text
and the faults of its contents in the order in which they stand.

An object of a draft keeps its fields as written, repeated keys included. A part that is
well-formed but cannot be held, a number out of range, half a surrogate pair or an array nested too
deeply, is `refused`, and a key that cannot be held is missing: neither does any harm where it is
skipped.
-/

namespace Tabula

/-- What a JSON text says, as far as it says it. -/
inductive Draft where
  /-- the value `null` -/
  | null
  /-- a truth value -/
  | bool (b : Bool)
  /-- a number -/
  | number (n : JsonNumber)
  /-- a string -/
  | string (s : String)
  /-- an array, and whether it was closed -/
  | array (items : List Draft) (closed : Bool)
  /-- an object with its fields in the order of the text, and whether it was closed -/
  | object (fields : List (Option String × Draft)) (closed : Bool)
  /-- a well-formed part that cannot be held -/
  | refused
  /-- here the text stops being JSON -/
  | broken
  deriving Inhabited

namespace Draft

/-- Arrays and objects may be nested this deep. -/
def deepest : Nat := 127

/-- A blank between the tokens of JSON. -/
def isGap (c : Char) : Bool := c = ' ' || c = '\t' || c = '\n' || c = '\r'

/-- The text without the blanks at its start. -/
def skipGaps (cs : List Char) : List Char := cs.dropWhile isGap

/-- The value of the four hexadecimal digits at the start of a text. -/
def hexUnit? : List Char → Option (Nat × List Char)
  | a :: b :: c :: d :: rest => do
    let a ← Text.hexDigit? a
    let b ← Text.hexDigit? b
    let c ← Text.hexDigit? c
    let d ← Text.hexDigit? d
    return (((a * 16 + b) * 16 + c) * 16 + d, rest)
  | _ => none

/-- The character that a letter after a backslash stands for. -/
def escaped? : Char → Option Char
  | '"' => some '"'
  | '\\' => some '\\'
  | '/' => some '/'
  | 'b' => some '\u0008'
  | 'f' => some '\u000c'
  | 'n' => some '\n'
  | 'r' => some '\r'
  | 't' => some '\t'
  | _ => none

/-- The character of a code unit and, where the unit is the first half of a pair, of the unit that
must follow it; with the rest of the text. -/
def unitChar (unit : Nat) (rest : List Char) : Option Char × List Char :=
  if unit < 0xd800 || 0xe000 ≤ unit then (some (Char.ofNat unit), rest)
  else if unit < 0xdc00 then
    match rest with
    | '\\' :: 'u' :: more =>
      match hexUnit? more with
      | some (low, rest') =>
        if 0xdc00 ≤ low && low < 0xe000 then
          (some (Char.ofNat (0x10000 + (unit - 0xd800) * 0x400 + (low - 0xdc00))), rest')
        else (none, rest)
      | none => (none, rest)
    | _ => (none, rest)
  else (none, rest)

/-- What a string says after its opening mark: its characters, if it can be held, and the text
after its closing mark; `none` if the text stops being JSON. -/
def stringBody : Nat → List Char → List Char → Bool → Option (Option String × List Char)
  | 0, _, _, _ => none
  | fuel + 1, cs, acc, sound =>
    match cs with
    | [] => none
    | '"' :: rest => some (if sound then some (String.ofList acc.reverse) else none, rest)
    | '\\' :: 'u' :: rest =>
      match hexUnit? rest with
      | none => none
      | some (unit, rest) =>
        match unitChar unit rest with
        | (some c, rest) => stringBody fuel rest (c :: acc) sound
        | (none, rest) => stringBody fuel rest acc false
    | '\\' :: e :: rest =>
      match escaped? e with
      | some c => stringBody fuel rest (c :: acc) sound
      | none => none
    | c :: rest =>
      if c.toNat < 0x20 || c = '\\' then none else stringBody fuel rest (c :: acc) sound

/-- What a string says after its opening mark. -/
def string? (cs : List Char) : Option (Option String × List Char) :=
  stringBody (cs.length + 1) cs [] true

/-- The fraction of a numeral, if a point follows; `none` if no digit follows the point. -/
def fraction? : List Char → Option (Option (List Char) × List Char)
  | '.' :: r =>
    let ds := r.takeWhile Char.isDigit
    if ds = [] then none else some (some ds, r.dropWhile Char.isDigit)
  | r => some (none, r)

/-- The exponent of a numeral, if a letter for it follows; `none` if it has no digit. -/
def exponent? : List Char → Option (Option (Bool × List Char) × List Char)
  | [] => some (none, [])
  | c :: r =>
    if c = 'e' || c = 'E' then
      let (down, r) := match r with
        | '-' :: r => (true, r)
        | '+' :: r => (false, r)
        | r => (false, r)
      let ds := r.takeWhile Char.isDigit
      if ds = [] then none else some (some (down, ds), r.dropWhile Char.isDigit)
    else some (none, c :: r)

/-- The numeral at the start of a text, and the rest; `none` if the text stops being JSON. -/
def numeral? (cs : List Char) : Option (JsonNumeral × List Char) := do
  let (negative, cs) := match cs with
    | '-' :: r => (true, r)
    | r => (false, r)
  let whole := cs.takeWhile Char.isDigit
  if whole = [] || (whole.length ≠ 1 && whole.head? = some '0') then none
  else
    let (fraction, cs) ← fraction? (cs.dropWhile Char.isDigit)
    let (exponent, cs) ← exponent? cs
    return (⟨negative, whole, fraction, exponent⟩, cs)

/-- The number at the start of a text. -/
def numeralValue (cs : List Char) : Draft × Option (List Char) :=
  match numeral? cs with
  | none => (.broken, none)
  | some (n, rest) =>
    match n.value? with
    | some v => (.number v, some rest)
    | none => (.refused, some rest)

/-- A word of JSON at the start of a text. -/
def word (cs : List Char) : Draft × Option (List Char) :=
  match cs with
  | 'n' :: 'u' :: 'l' :: 'l' :: rest => (.null, some rest)
  | 't' :: 'r' :: 'u' :: 'e' :: rest => (.bool true, some rest)
  | 'f' :: 'a' :: 'l' :: 's' :: 'e' :: rest => (.bool false, some rest)
  | _ => (.broken, none)

/-- A closed container, if it may stand at this depth. -/
def contained (depth : Nat) (d : Draft) : Draft := if depth < deepest then d else .refused

mutual

/-- The value at the start of a text, and the rest of the text unless it stopped being JSON. -/
def value : Nat → Nat → List Char → Draft × Option (List Char)
  | 0, _, _ => (.broken, none)
  | fuel + 1, depth, cs =>
    match skipGaps cs with
    | '"' :: rest =>
      match string? rest with
      | none => (.broken, none)
      | some (some s, rest) => (.string s, some rest)
      | some (none, rest) => (.refused, some rest)
    | '[' :: rest =>
      match skipGaps rest with
      | ']' :: rest => (contained depth (.array [] true), some rest)
      | rest =>
        match items fuel (depth + 1) rest with
        | (ds, some rest) => (contained depth (.array ds true), some rest)
        | (ds, none) => (.array ds false, none)
    | '{' :: rest =>
      match skipGaps rest with
      | '}' :: rest => (contained depth (.object [] true), some rest)
      | rest =>
        match fields fuel (depth + 1) rest with
        | (fs, some rest) => (contained depth (.object fs true), some rest)
        | (fs, none) => (.object fs false, none)
    | c :: rest => if c = '-' || c.isDigit then numeralValue (c :: rest) else word (c :: rest)
    | [] => (.broken, none)

/-- The items of an array after its opening bracket, at least one. -/
def items : Nat → Nat → List Char → List Draft × Option (List Char)
  | 0, _, _ => ([], none)
  | fuel + 1, depth, cs =>
    match value fuel depth cs with
    | (d, none) => ([d], none)
    | (d, some rest) =>
      match skipGaps rest with
      | ']' :: rest => ([d], some rest)
      | ',' :: rest =>
        let (ds, rest) := items fuel depth rest
        (d :: ds, rest)
      | _ => ([d], none)

/-- The fields of an object after its opening bracket, at least one. -/
def fields : Nat → Nat → List Char → List (Option String × Draft) × Option (List Char)
  | 0, _, _ => ([], none)
  | fuel + 1, depth, cs =>
    match skipGaps cs with
    | '"' :: rest =>
      match string? rest with
      | some (k, rest) =>
        match skipGaps rest with
        | ':' :: rest =>
          match value fuel depth rest with
          | (d, none) => ([(k, d)], none)
          | (d, some rest) =>
            match skipGaps rest with
            | '}' :: rest => ([(k, d)], some rest)
            | ',' :: rest =>
              let (fs, rest) := fields fuel depth rest
              ((k, d) :: fs, rest)
            | _ => ([(k, d)], none)
        | _ => ([], none)
      | _ => ([], none)
    | _ => ([], none)

end

/-- What a text says, and whether nothing but blanks follows it. -/
def read (s : String) : Draft × Bool :=
  let cs := s.toList
  match value (2 * cs.length + 2) 0 cs with
  | (d, some rest) => (d, skipGaps rest = [])
  | (d, none) => (d, false)

mutual

/-- The draft of a value. -/
def ofJson : Json → Draft
  | .null => .null
  | .bool b => .bool b
  | .number n => .number n
  | .string s => .string s
  | .array js => .array (ofItems js) true
  | .object fs => .object (ofFields fs) true

/-- The drafts of the items of an array. -/
def ofItems : List Json → List Draft
  | [] => []
  | j :: rest => ofJson j :: ofItems rest

/-- The drafts of the fields of an object. -/
def ofFields : List (String × Json) → List (Option String × Draft)
  | [] => []
  | (k, v) :: rest => (some k, ofJson v) :: ofFields rest

end

end Draft

end Tabula
