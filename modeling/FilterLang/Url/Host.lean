import FilterLang.Url.Domain
import FilterLang.Url.Escape

/-!
# Hosts

The host of an address is a number in one of two notations or a name. Where an address is looked up
on a network, a name whose last part is a number must be an address of version 4, and a name must
not hold characters that have a meaning in addresses. Elsewhere a host is any text without such
characters.
-/

namespace FilterLang.Url

/-- Why a text is no address. -/
inductive Fault where
  /-- The address does not name its scheme. -/
  | relative
  | emptyHost
  | port
  | domain
  | domainCharacter
  | ipv4
  | ipv6
  deriving Repr, DecidableEq

/-- The words for a fault. -/
def Fault.message : Fault → String
  | relative => "relative URL without a base"
  | emptyHost => "empty host"
  | port => "invalid port number"
  | domain => "invalid international domain name"
  | domainCharacter => "invalid domain character"
  | ipv4 => "invalid IPv4 address"
  | ipv6 => "invalid IPv6 address"

/-! ### Version 4 -/

/-- One part of an address of version 4, in any of its bases. -/
def ipv4Part? : List Char → Option Nat
  | [] => none
  | '0' :: x :: rest =>
    if x == 'x' || x == 'X' then number? 16 rest else number? 8 (x :: rest)
  | cs => number? 10 cs

/-- The parts of a name, without an empty one at its end. -/
def labels (cs : List Char) : List (List Char) :=
  let parts := cs.splitOn '.'
  if parts.getLast? == some [] && 1 < parts.length then parts.dropLast else parts

/-- Whether the last part of a name is a number. -/
def endsInNumber (cs : List Char) : Bool :=
  match (labels cs).getLast? with
  | some last => !last.isEmpty && (last.all Char.isDigit || (ipv4Part? last).isSome)
  | none => false

/-- The text of an address of version 4. All parts but the last are bytes, and the last fills the
bytes that are left. -/
def ipv4? (cs : List Char) : Option (List Char) := do
  let numbers ← (labels cs).mapM ipv4Part?
  let last ← numbers.getLast?
  let first := numbers.dropLast
  if 3 < first.length || first.any (255 < ·) || Nat.pow 256 (4 - first.length) ≤ last then none
  let value := first.foldl (fun v n ↦ 256 * v + n) 0 * Nat.pow 256 (4 - first.length) + last
  let bytes := [value / Nat.pow 256 3, value / Nat.pow 256 2 % 256, value / 256 % 256, value % 256]
  return List.intercalate ['.'] (bytes.map fun b ↦ (toString b).toList)

/-! ### Version 6 -/

/-- A byte in decimal without leading zeros. -/
def plainByte? (cs : List Char) : Option Nat := do
  let n ← number? 10 cs
  if cs.isEmpty || 255 < n || (cs.head? == some '0' && cs.length != 1) then none else some n

/-- A group of an address of version 6: one number of sixteen bits, or two written as an address of
version 4, which may only stand at the end. -/
def ipv6Group? (isLast : Bool) (cs : List Char) : Option (List Nat) :=
  if isLast && cs.contains '.' then do
    match ← (cs.splitOn '.').mapM plainByte? with
    | [a, b, c, d] => some [256 * a + b, 256 * c + d]
    | _ => none
  else if cs.isEmpty || 4 < cs.length then none
  else (number? 16 cs).map fun n ↦ [n]

/-- The numbers of groups between colons. An empty text has none. -/
def ipv6Groups? (atEnd : Bool) (cs : List Char) : Option (List Nat) :=
  if cs.isEmpty then some []
  else do
    let parts := cs.splitOn ':'
    let first ← parts.dropLast.mapM (ipv6Group? false)
    let last ← parts.getLast?.bind (ipv6Group? atEnd)
    return first.flatten ++ last

/-- The text before and after the first two colons in a row, if there are any. -/
def cutGap? : List Char → Option (List Char × List Char)
  | ':' :: ':' :: rest => some ([], rest)
  | c :: rest => (cutGap? rest).map fun (before, after) ↦ (c :: before, after)
  | [] => none

/-- The eight numbers of an address of version 6. -/
def ipv6? (cs : List Char) : Option (List Nat) :=
  match cutGap? cs with
  | none => do
    let groups ← ipv6Groups? true cs
    if groups.length == 8 then some groups else none
  | some (before, after) => do
    let front ← ipv6Groups? false before
    let back ← ipv6Groups? true after
    if front.length + back.length < 8 then
      some (front ++ List.replicate (8 - front.length - back.length) 0 ++ back)
    else none

/-- The longest run of zeros: where it starts, and its length. The first of several counts. -/
def zeroRun (groups : List Nat) : Nat × Nat :=
  (List.range groups.length).foldl (fun best i ↦
    let n := ((groups.drop i).takeWhile (· == 0)).length
    if best.2 < n then (i, n) else best) (0, 0)

/-- The text of an address of version 6 in its brackets. -/
def ipv6Text (groups : List Nat) : List Char :=
  let text (ns : List Nat) : List Char :=
    List.intercalate [':'] (ns.map fun n ↦ Nat.toDigits 16 n)
  let (start, n) := zeroRun groups
  let inner :=
    if n < 2 then text groups
    else text (groups.take start) ++ [':', ':'] ++ text (groups.drop (start + n))
  '[' :: (inner ++ [']'])

/-! ### Names -/

/-- The characters that cannot stand in any host. -/
def isForbidden (c : Char) : Bool :=
  c.toNat == 0 || ['\t', '\n', '\r', ' ', '#', '/', ':', '<', '>', '?', '@', '[', '\\', ']', '^',
    '|'].contains c

/-- The characters that cannot stand in the name of a domain. -/
def isForbiddenInDomain (c : Char) : Bool :=
  isForbidden c || c.toNat < 0x20 || c == '%' || 0x7F ≤ c.toNat

/-- An address of version 6 in brackets. -/
def bracketed (rest : List Char) : Except Fault (List Char) :=
  match rest.getLast?, ipv6? rest.dropLast with
  | some ']', some groups => .ok (ipv6Text groups)
  | _, _ => .error .ipv6

/-- The host of an address that is looked up on a network. -/
def networkHost (cs : List Char) : Except Fault (List Char) :=
  match cs with
  | '[' :: rest => bracketed rest
  | cs =>
    match (unescaped? cs).bind Domain.ascii? with
    | none => .error .domain
    | some name =>
      if name.any isForbiddenInDomain then .error .domain
      else if name.isEmpty then .error .emptyHost
      else if endsInNumber name then
        match ipv4? name with
        | some text => .ok text
        | none => .error .ipv4
      else .ok name

/-- The host of an address that is not looked up. -/
def opaqueHost (cs : List Char) : Except Fault (List Char) :=
  match cs with
  | '[' :: rest => bracketed rest
  | cs => if cs.any isForbidden then .error .domainCharacter else .ok (escape [] cs)

end FilterLang.Url
