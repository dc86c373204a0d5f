/-!
# Schemes

The scheme of an address says how the rest of it is read. Addresses of a few special schemes are read
leniently: a backslash counts as a slash, and their paths are made absolute. Most of these name a
host and have a usual port, and the addresses of files need not name one.
-/

namespace FilterLang.Url

/-- The schemes whose addresses are read leniently, and their ports. -/
def specialPorts : List (String × Option Nat) :=
  [("http", some 80), ("https", some 443), ("ws", some 80), ("wss", some 443), ("ftp", some 21),
    ("file", none)]

/-- How addresses of a scheme are read. -/
inductive Kind where
  | special (port : Option Nat)
  | file
  | other
  deriving Repr, DecidableEq

/-- How addresses of a scheme are read. -/
def Kind.ofScheme (scheme : List Char) : Kind :=
  if scheme == "file".toList then file
  else
    match specialPorts.lookup (String.ofList scheme) with
    | some port => special port
    | none => other

/-- Whether a backslash counts as a slash. -/
def Kind.isSpecial : Kind → Bool
  | other => false
  | _ => true

/-- Whether a character separates the parts of a path. -/
def Kind.isSlash (k : Kind) (c : Char) : Bool := c == '/' || k.isSpecial && c == '\\'

/-- Whether a character ends the host and what stands with it. -/
def Kind.endsAuthority (k : Kind) (c : Char) : Bool := k.isSlash c || c == '?' || c == '#'

/-- The scheme of an address and the text after its colon. -/
def scheme? (cs : List Char) : Option (List Char × List Char) :=
  let isPart (c : Char) : Bool := c.isAlphanum || c == '+' || c == '-' || c == '.'
  match cs, cs.dropWhile isPart with
  | c :: _, ':' :: rest =>
    if c.isAlpha then some ((cs.takeWhile isPart).map Char.toLower, rest) else none
  | _, _ => none

end FilterLang.Url
