import Tabula.Text.Percent

/-!
# Where a database is kept

A path names a file, or memory if it is `:memory:`. A path that begins with `file:` is an address:
the name of the file follows, and after a question mark options, among them how the file is
accessed. Bytes can be written with percent signs; the null byte ends the part it is in.
`Location.ofPath` says what a path means, or what is wrong with it.
-/

namespace Tabula.Sqlite

/-- Where a database is kept. -/
inductive Location where
  /-- in memory, or in a file without a name that is gone when it is closed -/
  | temporary
  /-- in a file -/
  | file
  deriving DecidableEq

/-- How a file is accessed. -/
inductive Access where
  /-- it is only read -/
  | read
  /-- it is read and written, and must be there -/
  | write
  /-- it is read and written, and made if it is missing -/
  | create
  /-- there is no file -/
  | memory
  deriving DecidableEq

namespace Access

/-- The access of a name. -/
def ofName? : String → Option Access
  | "ro" => some .read
  | "rw" => some .write
  | "rwc" => some .create
  | "memory" => some .memory
  | _ => none

/-- One kind of access can follow another: it must not allow more. -/
def allows : Access → Access → Bool
  | _, .memory => true
  | .memory, _ => true
  | .create, _ => true
  | .write, a => a != .create
  | .read, a => a == .read

end Access

namespace Location

/-- What the options of an address say. -/
structure Options where
  /-- how the file is accessed -/
  access : Access := .create
  /-- the file system that is asked for -/
  system : Option String := none

/-- The file systems there are, the last one of which is in memory. -/
def systems : List String := ["unix", "unix-none", "unix-dotfile", "unix-excl", "memdb"]

/-- What a part of an address means, up to the first null byte. -/
def meant (cs : List Char) : String :=
  (String.fromUTF8? ((Text.meantBytes cs).takeWhile (· ≠ 0)).toByteArray).getD ""

/-- The parts of a text between separators. -/
def parts (separator : Char) : List Char → List (List Char)
  | [] => [[]]
  | c :: cs =>
    if c = separator then [] :: parts separator cs
    else
      match parts separator cs with
      | [] => [[c]]
      | p :: ps => (c :: p) :: ps

/-- The options after one more. Those of other names are passed over. -/
def Options.step (o : Options) (cs : List Char) : Except String Options :=
  let key := cs.takeWhile (· ≠ '=')
  let value := meant (cs.drop (key.length + 1))
  match meant key with
  | "vfs" => .ok { o with system := some value }
  | "cache" =>
    if value = "shared" || value = "private" then .ok o
    else .error ("no such cache mode: " ++ value)
  | "mode" =>
    match Access.ofName? value with
    | none => .error ("no such access mode: " ++ value)
    | some a =>
      if o.access.allows a then .ok { o with access := a }
      else .error ("access mode not allowed: " ++ value)
  | _ => .ok o

/-- What is behind the machine in an address; only this machine can be meant. -/
def skipMachine : List Char → Except String (List Char)
  | '/' :: '/' :: cs =>
    let machine := String.ofList (cs.takeWhile (· ≠ '/'))
    if machine = "" || machine = "localhost" then .ok (cs.dropWhile (· ≠ '/'))
    else .error ("invalid uri authority: " ++ machine)
  | cs => .ok cs

/-- The place of a file, given its name. -/
def ofName (name : String) : Location :=
  if name = "" || name = ":memory:" then .temporary else .file

/-- What an address means behind `file:`. -/
def ofAddress (cs : List Char) : Except String Location := do
  let cs := (← skipMachine cs).takeWhile (· ≠ '#')
  let name := cs.takeWhile (· ≠ '?')
  let o ← (parts '&' (cs.drop (name.length + 1))).foldlM Options.step {}
  let system := o.system.getD "unix"
  if system ∉ systems then throw ("no such vfs: " ++ system)
  return if o.access = .memory || system = "memdb" then .temporary else ofName (meant name)

/-- What a path means, or what is wrong with it. -/
def ofPath (path : String) : Except String Location :=
  match path.toList with
  | 'f' :: 'i' :: 'l' :: 'e' :: ':' :: cs => ofAddress cs
  | _ => .ok (ofName path)

end Location

end Tabula.Sqlite
