import FilterLang.Url.Host
import FilterLang.Url.Path

/-!
# Addresses

The address of a resource: a scheme, perhaps a host with a port, a path, and perhaps a query and a
fragment. A name and a password may stand before the host. A text is brought into its normal form on
the way: characters that cannot stand in an address are escaped, steps up and down a path are taken,
and a host is written in ASCII.
-/

namespace FilterLang

/-- What an address says about the one who uses it. -/
structure Url.Credentials where
  name : List Char
  password : Option (List Char)
  deriving Repr, DecidableEq

/-- An address in normal form. -/
structure Url where
  scheme : List Char
  credentials : Option Url.Credentials
  host : Option (List Char)
  port : Option Nat
  path : List Char
  query : Option (List Char)
  fragment : Option (List Char)
  deriving Repr, DecidableEq

namespace Url

/-! ### Paths and what follows them -/

/-- The text before the query and the fragment, and the text from there on. -/
def cutPath (cs : List Char) : List Char × List Char :=
  cs.span fun c ↦ c != '?' && c != '#'

/-- The query and the fragment of the text after a path. -/
def tailParts (k : Kind) (cs : List Char) : Option (List Char) × Option (List Char) :=
  let fragmentOf : List Char → Option (List Char)
    | '#' :: rest => some (escape fragmentEscapes rest)
    | _ => none
  match cs with
  | '?' :: rest =>
    let (query, rest) := rest.span (· != '#')
    (some (escape (queryEscapes k) query), fragmentOf rest)
  | cs => (none, fragmentOf cs)

/-- The address whose path has the given text, of which the first slash is not a part, and which goes
on with `rest`. No host stands before a drive. -/
def withPath (u : Url) (k : Kind) (text rest : List Char) : Url :=
  let parts := pathParts k text
  let (query, fragment) := tailParts k rest
  { u with
    host := if k == .file && parts.head?.any isDrive then none else u.host
    path := pathText k parts
    query
    fragment }

/-- The address that goes on with the given text after its host. -/
def finish (u : Url) (k : Kind) (cs : List Char) : Url :=
  let (text, rest) := cutPath cs
  match text with
  | [] =>
    if k.isSpecial then u.withPath k [] rest
    else
      let (query, fragment) := tailParts k rest
      { u with query, fragment }
  | c :: after => u.withPath k (if k.isSlash c then after else text) rest

/-! ### Names, hosts and ports -/

/-- Cuts off the name and the password before a host, which the last at sign before the path ends. A
host must follow an at sign. -/
def cutCredentials (k : Kind) (cs : List Char) :
    Except Fault (Option Credentials × List Char) :=
  let authority := cs.takeWhile fun c ↦ !k.endsAuthority c
  if !authority.contains '@' then .ok (none, cs)
  else
    let user := (authority.reverse.dropWhile (· != '@')).tail.reverse
    let rest := cs.drop (user.length + 1)
    if user.isEmpty then
      if rest.head?.any k.endsAuthority then .error .emptyHost else .ok (none, rest)
    else
      let (name, password) := user.span (· != ':')
      let written := escape credentialEscapes
      let credentials : Credentials :=
        ⟨written name, if 1 < password.length then some (written password.tail) else none⟩
      .ok (if name.isEmpty && credentials.password.isNone then none else some credentials, rest)

/-- The text before a port or a path, and the text from there on. A colon between brackets ends
nothing. -/
def cutHost (k : Kind) : (inBrackets : Bool) → List Char → List Char × List Char
  | _, [] => ([], [])
  | inBrackets, c :: rest =>
    if (c == ':' && !inBrackets) || k.endsAuthority c then ([], c :: rest)
    else
      let inside := if c == '[' then true else if c == ']' then false else inBrackets
      let (host, after) := cutHost k inside rest
      (c :: host, after)

/-- The port after a host, and the text after it. The usual port of a scheme is left out. -/
def readPort (usual : Option Nat) (k : Kind) (cs : List Char) :
    Except Fault (Option Nat × List Char) :=
  match cs with
  | ':' :: rest =>
    let (digits, after) := rest.span Char.isDigit
    let ended := after.head?.all fun c ↦ k.endsAuthority c || c == '\\'
    match digits.isEmpty, number? 10 digits with
    | true, _ => if ended then .ok (none, after) else .error .port
    | false, some n =>
      if 65535 < n || !ended then .error .port
      else .ok (if usual == some n then none else some n, after)
    | false, none => .error .port
  | cs => .ok (none, cs)

/-- Reads an address from its host on. -/
def fromHost (scheme : List Char) (k : Kind) (usual : Option Nat) (cs : List Char) :
    Except Fault Url := do
  let (credentials, rest) ← cutCredentials k cs
  let (name, rest) := cutHost k false rest
  if k.isSpecial && name.isEmpty then .error .emptyHost
  let host ← if k.isSpecial then networkHost name else opaqueHost name
  if host.isEmpty && rest.head? == some ':' then .error .emptyHost
  let (port, rest) ← readPort usual k rest
  if host.isEmpty && credentials.isSome then .error .emptyHost
  return finish ⟨scheme, credentials, some host, port, [], none, none⟩ k rest

/-- Reads the address of a file from the text after its colon. A host may stand after two slashes,
and this machine needs none. A drive is not a host. Where no host stands, the path begins with all
slashes that follow the two. -/
def fromFile (scheme : List Char) (cs : List Char) : Except Fault Url := do
  let here : Url := ⟨scheme, none, none, none, [], none, none⟩
  let onlyPath (cs : List Char) : Url :=
    let (text, rest) := cutPath cs
    here.withPath .file text rest
  match cs with
  | a :: b :: rest =>
    if Kind.file.isSlash a && Kind.file.isSlash b then
      let (name, after) := rest.span fun c ↦ !Kind.file.endsAuthority c
      if isDrive name then return onlyPath rest
      if name.isEmpty then return onlyPath after
      let host ← networkHost name
      if host == "localhost".toList then return onlyPath after
      return finish { here with host := some host } .file after
    return finish here .file cs
  | cs => return finish here .file cs

/-- Reads the address of another scheme from the text after its colon. -/
def fromOther (scheme : List Char) (cs : List Char) : Except Fault Url :=
  let bare : Url := ⟨scheme, none, none, none, [], none, none⟩
  match cs with
  | '/' :: '/' :: rest => fromHost scheme .other none rest
  | '/' :: _ => .ok (finish bare .other cs)
  | cs =>
    let (text, rest) := cutPath cs
    let (query, fragment) := tailParts .other rest
    .ok { bare with path := escape [] text, query, fragment }

/-! ### Addresses -/

/-- Whether a character is dropped at the ends of an address. -/
def isOuter (c : Char) : Bool := c.toNat ≤ 0x20

/-- Reads an address. Line feeds, carriage returns and tabs are dropped wherever they stand. -/
def parse (text : String) : Except Fault Url :=
  let inner := (text.toList.dropWhile isOuter).reverse.dropWhile isOuter
  let cs := inner.reverse.filter fun c ↦ !(c == '\t' || c == '\n' || c == '\r')
  match scheme? cs with
  | none => .error .relative
  | some (scheme, rest) =>
    match Kind.ofScheme scheme with
    | .special usual =>
      let k := Kind.special usual
      fromHost scheme k usual (rest.dropWhile k.isSlash)
    | .file => fromFile scheme rest
    | .other => fromOther scheme rest

/-- The text of a name and a password before a host. -/
def Credentials.text (c : Credentials) : List Char :=
  c.name ++ (c.password.toList.flatMap fun p ↦ ':' :: p) ++ ['@']

/-- The text of an address. -/
def text (u : Url) : String :=
  let authority : List Char :=
    match u.host with
    | some host =>
      '/' :: '/' :: (u.credentials.toList.flatMap Credentials.text ++ host ++
        u.port.toList.flatMap fun n ↦ ':' :: (toString n).toList)
    | none =>
      if u.scheme == "file".toList then ['/', '/']
      else if List.isPrefixOf ['/', '/'] u.path then ['/', '.']
      else []
  String.ofList (u.scheme ++ ':' :: (authority ++ u.path ++
    (u.query.toList.flatMap fun q ↦ '?' :: q) ++ u.fragment.toList.flatMap fun f ↦ '#' :: f))

/-! ### Requests -/

/-- The address without the name and the password, which a request sends in another place. They stay
if they do not make a text. -/
def withoutCredentials (u : Url) : Url :=
  match u.credentials with
  | none => u
  | some c =>
    match unescaped? c.name with
    | none => u
    | some name =>
      if name.isEmpty && (c.password.bind unescaped?).isNone then u else { u with credentials := none }

/-- Whether an address is on the web. -/
def isWeb (u : Url) : Bool := ["http", "https"].contains (String.ofList u.scheme)

/-- The greatest number of bytes of an address to which a request is sent. -/
def maxRequestSize : Nat := 65534

/-- Whether a request can name an address. Some characters may stand in a host all the same. -/
def fitsRequest (u : Url) : Bool :=
  !u.host.any (·.any ['"', '`', '\x7b', '\x7d'].contains) && u.text.length ≤ maxRequestSize

end Url

end FilterLang
