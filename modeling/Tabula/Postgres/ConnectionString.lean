import Tabula.Postgres.HostAddress
import Tabula.Text.Blank
import Tabula.Text.Percent
import Tabula.Width

/-!
# Connection strings

How a server is to be reached is written as `keyword = value` pairs with blanks between them, or as
an address that begins with the name of the protocol. In pairs a value may stand between
apostrophes, and a backslash takes the character behind it as it is. In an address the login, the
hosts with their ports and the name of the database come first, and pairs follow a question mark;
bytes can be written with percent signs.

What a string says is looked at in the order in which it says it (`Target.ofText?`). Only how many
hosts, addresses and ports there are matters in the end: they have to go together.
-/

namespace Tabula.Postgres

/-- Where a server is to be looked for. -/
structure Target where
  /-- how many hosts are named -/
  hosts : Nat := 0
  /-- how many addresses of hosts are given -/
  addresses : Nat := 0
  /-- how many ports are given -/
  ports : Nat := 0
  deriving DecidableEq

namespace Target

/-! ## What keywords say -/

/-- A text is a number of so many bits, one of which can be for the sign. -/
def isNumber (signed : Bool) (bits : Nat) (s : String) : Bool :=
  let (negative, ds) := match s.toList with
    | '-' :: ds => (true, ds)
    | '+' :: ds => (false, ds)
    | ds => (false, ds)
  let n := Text.digitsValue ds
  ds ≠ [] && ds.all Char.isDigit &&
    if signed then fitsSigned bits (if negative then -(n : Int) else n)
    else !negative && fitsUnsigned bits n

/-- The keywords whose values can be any text. -/
def freeKeywords : List String := ["user", "password", "dbname", "options", "application_name"]

/-- The keywords whose values are one of some words. -/
def wordKeywords : List (String × List String) :=
  [("sslmode", ["disable", "prefer", "require"]), ("sslnegotiation", ["postgres", "direct"]),
   ("target_session_attrs", ["any", "read-write", "read-only"]),
   ("channel_binding", ["disable", "prefer", "require"]),
   ("load_balance_hosts", ["disable", "random"])]

/-- The keywords whose values are numbers; with whether they can be negative, and their bits. -/
def numberKeywords : List (String × Bool × Nat) :=
  [("connect_timeout", true, 64), ("tcp_user_timeout", true, 64),
   ("keepalives", false, 64), ("keepalives_idle", true, 64),
   ("keepalives_interval", true, 64), ("keepalives_retries", false, 32)]

/-- A keyword without a part in the target says something that can be said. -/
def isSound (keyword value : String) : Bool :=
  keyword ∈ freeKeywords ||
    match wordKeywords.lookup keyword, numberKeywords.lookup keyword with
    | some words, _ => words.contains value
    | none, some (signed, bits) => isNumber signed bits value
    | none, none => false

/-- A port, or nothing for the usual one. -/
def isPort (s : String) : Bool := s = "" || isNumber false 16 s

/-- The target after one more keyword with its value, if that can be said. -/
def with? (t : Target) (keyword value : String) : Option Target :=
  let parts := value.splitOn ","
  match keyword with
  | "host" => some { t with hosts := t.hosts + parts.length }
  | "hostaddr" =>
    if parts.all HostAddress.isAddress then
      some { t with addresses := t.addresses + parts.length }
    else none
  | "port" =>
    if parts.all isPort then some { t with ports := t.ports + parts.length } else none
  | _ => if isSound keyword value then some t else none

/-! ## Pairs -/

/-- The characters of a value that does not stand between apostrophes, and the rest. -/
def plainValue : List Char → List Char × List Char
  | [] => ([], [])
  | ['\\'] => ([], [])
  | '\\' :: c :: cs => (c :: (plainValue cs).1, (plainValue cs).2)
  | c :: cs => if Text.isBlank c then ([], c :: cs) else (c :: (plainValue cs).1, (plainValue cs).2)

/-- The characters of a value up to the closing apostrophe, and the rest. -/
def quotedValue? : List Char → Option (List Char × List Char)
  | [] => none
  | '\'' :: cs => some ([], cs)
  | ['\\'] => none
  | '\\' :: c :: cs => (quotedValue? cs).map fun (v, rest) => (c :: v, rest)
  | c :: cs => (quotedValue? cs).map fun (v, rest) => (c :: v, rest)

/-- A value and the rest. -/
def value? : List Char → Option (String × List Char)
  | '\'' :: cs => (quotedValue? cs).map fun (v, rest) => (String.ofList v, rest)
  | cs =>
    let (v, rest) := plainValue cs
    if v.isEmpty then none else some (String.ofList v, rest)

/-- The target of pairs with blanks between them. They end where no keyword follows. -/
def ofPairs? : Nat → Target → List Char → Option Target
  | 0, _, _ => none
  | fuel + 1, t, cs =>
    let cs := Text.trimStart cs
    let keyword := cs.takeWhile fun c => !Text.isBlank c && c ≠ '='
    if keyword.isEmpty then some t
    else
      match Text.trimStart (cs.drop keyword.length) with
      | '=' :: rest => do
        let (v, rest) ← value? (Text.trimStart rest)
        ofPairs? fuel (← t.with? (String.ofList keyword) v) rest
      | _ => none

/-! ## Addresses -/

/-- The target with one more host. A path need not be a text. -/
def withHost? (t : Target) (host : List Char) : Option Target :=
  if (Text.meantBytes host).head? = some 0x2f || (Text.meantText? host).isSome then
    some { t with hosts := t.hosts + 1 }
  else none

/-- A host and its port, if there is one, each as it is written. -/
def place? : List Char → Option (List Char × Option (List Char))
  | '[' :: cs =>
    let host := cs.takeWhile (· ≠ ']')
    match cs.drop host.length with
    | [']'] => some (host, none)
    | ']' :: ':' :: port => some (host, some port)
    | _ => none
  | cs =>
    let host := cs.takeWhile (· ≠ ':')
    match cs.drop host.length with
    | _ :: port => some (host, some port)
    | [] => some (host, none)

/-- The target with one more host and its port. -/
def withPlace? (t : Target) (s : String) : Option Target := do
  let (host, port) ← place? s.toList
  let t ← t.withHost? host
  t.with? "port" (← Text.meantText? (port.getD "5432".toList))

/-- The target after the pairs that follow a question mark. -/
def withQuery? : Nat → Target → List Char → Option Target
  | 0, _, _ => none
  | _ + 1, t, [] => some t
  | fuel + 1, t, cs => do
    let keyword := cs.takeWhile (· ≠ '=')
    match cs.drop keyword.length with
    | [] => none
    | _ :: cs => do
      let keyword ← Text.meantText? keyword
      let value := cs.takeWhile (· ≠ '&')
      let t ← if keyword = "host" then t.withHost? value
        else t.with? keyword (← Text.meantText? value)
      withQuery? fuel t (cs.drop (value.length + 1))

/-- The characters behind the login, if that can be read. -/
def skipLogin? (cs : List Char) : Option (List Char) :=
  let login := cs.takeWhile (· ≠ '@')
  match cs.drop login.length with
  | [] => some cs
  | _ :: rest => (Text.meantText? (login.takeWhile (· ≠ ':'))).map fun _ => rest

/-- The target of an address behind the name of the protocol. -/
def ofAddress? (cs : List Char) : Option Target := do
  let cs ← skipLogin? cs
  let places := cs.takeWhile fun c => c ≠ '/' && c ≠ '?'
  let t ← if places.isEmpty then some {}
    else ((String.ofList places).splitOn ",").foldlM withPlace? {}
  let path := (cs.drop places.length).takeWhile (· ≠ '?')
  let _ ← Text.meantText? path
  withQuery? (cs.length + 1) t (cs.drop (places.length + path.length + 1))

/-- The address behind the name of the protocol, if the text begins with that. -/
def address? (s : String) : Option (List Char) :=
  ["postgres://", "postgresql://"].findSome? fun scheme =>
    if scheme.toList.isPrefixOf s.toList then some (s.toList.drop scheme.length) else none

/-- The target of a connection string, if it can be read. -/
def ofText? (s : String) : Option Target :=
  match address? s with
  | some cs => ofAddress? cs
  | none => ofPairs? (s.length + 1) {} s.toList

/-! ## What goes together -/

/-- A host or an address is given, if both are then as many of one as of the other; and there is at
most one port for all of them, or one for each. -/
def isUsable (t : Target) : Bool :=
  let places := max t.hosts t.addresses
  places ≠ 0 && (t.hosts = 0 || t.addresses = 0 || t.hosts = t.addresses) &&
    (t.ports ≤ 1 || t.ports = places)

end Target

end Tabula.Postgres
