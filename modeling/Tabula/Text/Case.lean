import Tabula.Text.CaseTable

/-!
# Lower case

`lowercase` folds a text with the full lower-case mapping of Unicode: every character by its simple
mapping, save `İ`, which becomes two characters, and `Σ`, whose small form depends on its
neighbours (`endsWord`).
-/

namespace Tabula.Text

/-- The simple lower-case mapping of one character. -/
def lowerChar (c : Char) : Char :=
  if c.toNat < 0x80 then c.toLower
  else match lowerRuns.find? fun r => r.covers c.toNat with
    | some r => Char.ofNat (Int.toNat (c.toNat + r.shift))
    | none => c

/-- The character has case. -/
def isCased (c : Char) : Bool := inRanges casedRanges c.toNat

/-- The character is passed over when a cased neighbour is looked for. -/
def isCaseIgnorable (c : Char) : Bool := inRanges caseIgnorableRanges c.toNat

/-- The nearest character that counts is cased. -/
def meetsCased (cs : List Char) : Bool :=
  match cs.dropWhile isCaseIgnorable with
  | [] => false
  | c :: _ => isCased c

/-- A sigma stands at the end of a word: a cased character before it and none after. The text
before it is given backwards. -/
def endsWord (before after : List Char) : Bool := meetsCased before && !meetsCased after

/-- The lower-case form of a text, given the text already passed, backwards. -/
def lowercaseFrom (before : List Char) : List Char → List Char
  | [] => []
  | c :: cs =>
    let rest := lowercaseFrom (c :: before) cs
    if c = 'Σ' then (if endsWord before cs then 'ς' else 'σ') :: rest
    else if c = 'İ' then 'i' :: '\u0307' :: rest
    else lowerChar c :: rest

/-- The lower-case form of a text. -/
def lowercase (s : String) : String := String.ofList (lowercaseFrom [] s.toList)

end Tabula.Text
