import Tabula.Json.Draft

/-!
# Decoding drafts

A decoder turns a draft into something of the domain. It goes from left to right and stops at the
first fault, which is either that the draft does not have the wanted form (`unreadable`) or
something the decoder has to say about it (`described`).
-/

namespace Tabula

/-- Why a text could not be decoded. -/
inductive Mismatch where
  /-- the text is not JSON, or not JSON of the wanted form -/
  | unreadable
  /-- the decoder's own words -/
  | described (message : String)
  deriving DecidableEq, Repr

namespace Draft

mutual

/-- The draft is well-formed to its end. -/
def sound : Draft → Bool
  | .broken => false
  | .array ds closed => soundItems ds && closed
  | .object fs closed => soundFields fs && closed
  | _ => true

/-- All items are well-formed. -/
def soundItems : List Draft → Bool
  | [] => true
  | d :: rest => sound d && soundItems rest

/-- The values of all fields are well-formed. -/
def soundFields : List (Option String × Draft) → Bool
  | [] => true
  | (_, d) :: rest => sound d && soundFields rest

end

/-- Fails unless the container was closed. -/
def ifClosed {α : Type} (closed : Bool) (a : α) : Except Mismatch α :=
  if closed then .ok a else .error .unreadable

/-- A key; it must be one that can be held. -/
def held : Option String → Except Mismatch String
  | some k => .ok k
  | none => .error .unreadable

mutual

/-- The value of a draft. -/
def toJson? : Draft → Except Mismatch Json
  | .null => .ok .null
  | .bool b => .ok (.bool b)
  | .number n => .ok (.number n)
  | .string s => .ok (.string s)
  | .array ds closed => do
    let js ← itemsToJson? ds
    ifClosed closed (.array js)
  | .object fs closed => do
    let fs ← fieldsToJson? fs
    ifClosed closed (.ofFields fs)
  | .refused => .error .unreadable
  | .broken => .error .unreadable

/-- The values of the items of an array. -/
def itemsToJson? : List Draft → Except Mismatch (List Json)
  | [] => .ok []
  | d :: rest => do
    let j ← toJson? d
    let js ← itemsToJson? rest
    return j :: js

/-- The values of the fields of an object. -/
def fieldsToJson? : List (Option String × Draft) → Except Mismatch (List (String × Json))
  | [] => .ok []
  | (k, d) :: rest => do
    let k ← held k
    let j ← toJson? d
    let fs ← fieldsToJson? rest
    return (k, j) :: fs

end

variable {α σ : Type}

/-- A list of values of one kind. -/
def toList? (item : Draft → Except Mismatch α) : Draft → Except Mismatch (List α)
  | .array ds closed => do
    let as ← ds.mapM item
    ifClosed closed as
  | _ => .error .unreadable

/-- The fields of an object, in the order of the text, repeated keys included. -/
def toFields? (value : Draft → Except Mismatch α) :
    Draft → Except Mismatch (List (String × α))
  | .object fs closed => do
    let fs ← fs.mapM fun (k, d) => do return (← held k, ← value d)
    ifClosed closed fs
  | _ => .error .unreadable

/-- A string. -/
def toString? : Draft → Except Mismatch String
  | .string s => .ok s
  | _ => .error .unreadable

/-- A natural of at most 64 bits. -/
def toNatural? : Draft → Except Mismatch Nat
  | .number (.whole n) => if 0 ≤ n then .ok n.toNat else .error .unreadable
  | _ => .error .unreadable

/-- Something that may be `null`. -/
def toOption? (value : Draft → Except Mismatch α) : Draft → Except Mismatch (Option α)
  | .null => .ok none
  | d => do return some (← value d)

/-- One of a list of names: the name as a string, or an object with the name for its only key and
`null` for its value. -/
def toName? (names : List String) : Draft → Except Mismatch String
  | .string s => if s ∈ names then .ok s else .error .unreadable
  | .object [(some s, .null)] true => if s ∈ names then .ok s else .error .unreadable
  | _ => .error .unreadable

/-- Reads the items of an array as the fields of those names, in order; there may be fewer items,
but not more. -/
def readItems (step : σ → String → Draft → Except Mismatch σ) :
    List String → List Draft → σ → Except Mismatch σ
  | _, [], s => .ok s
  | [], _ :: _, _ => .error .unreadable
  | name :: names, d :: ds, s => do readItems step names ds (← step s name d)

/-- Reads the fields of an object. A field of another name is skipped. -/
def readFields (step : σ → String → Draft → Except Mismatch σ) (names : List String) :
    List (Option String × Draft) → σ → Except Mismatch σ
  | [], s => .ok s
  | (none, _) :: _, _ => .error .unreadable
  | (some k, d) :: rest, s =>
    if k ∈ names then do readFields step names rest (← step s k d)
    else if d.sound then readFields step names rest s
    else .error .unreadable

/-- A record with fields of those names, as an object or as an array of its fields in order. Each
field that is found is handed to `step`, in the order of the text. -/
def toRecord? (names : List String) (step : σ → String → Draft → Except Mismatch σ) (s : σ) :
    Draft → Except Mismatch σ
  | .object fs closed => do
    let s ← readFields step names fs s
    ifClosed closed s
  | .array ds closed => do
    let s ← readItems step names ds s
    ifClosed closed s
  | _ => .error .unreadable

/-- Fills a field that must not have been found before. -/
def once (found : Option α) (value : Except Mismatch α) : Except Mismatch (Option α) :=
  match found with
  | some _ => .error .unreadable
  | none => some <$> value

/-- A field that must have been found. -/
def required (found : Option α) : Except Mismatch α :=
  match found with
  | some a => .ok a
  | none => .error .unreadable

/-- Decodes a whole text: nothing but blanks may follow the value. -/
def decodeText (decoder : Draft → Except Mismatch α) (text : String) : Except Mismatch α := do
  let (d, ended) := read text
  let a ← decoder d
  ifClosed ended a

end Draft

/-- The JSON value that a text stands for. -/
def Json.ofText? (text : String) : Except Mismatch Json := Draft.decodeText Draft.toJson? text

end Tabula
