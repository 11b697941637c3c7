import SqlRender.Error
import SqlRender.Text.Pieces

/-!
# Data source names

A data source name is a scheme, a colon and the place of the data: `mysql://server/base`. Only the
scheme is used, but a name whose server cannot be one is refused. A server with brackets is an
address of eight groups, or of a later kind that begins with `v`.
-/

namespace SqlRender.DataSource

/-- The characters that a scheme may hold behind its first letter. -/
def isSchemeChar (c : Char) : Bool :=
  c.isAlphanum || c = '+' || c = '-' || c = '.'

/-- Leading control characters and spaces are passed over; tabs and line ends are taken out. -/
def clean (cs : List Char) : List Char :=
  (cs.dropWhile (·.toNat ≤ 0x20)).filter fun c => c ≠ '\t' && c ≠ '\r' && c ≠ '\n'

/-- The scheme, in small letters, and what follows the colon. Without a scheme all of it follows. -/
def splitScheme (cs : List Char) : List Char × List Char :=
  match cs.takeWhile (· ≠ ':'), cs.dropWhile (· ≠ ':') with
  | first :: scheme, ':' :: rest =>
    if first.isAlpha && scheme.all isSchemeChar then ((first :: scheme).map Char.toLower, rest)
    else ([], cs)
  | _, _ => ([], cs)

/-- The part behind two slashes that names the server. -/
def server (rest : List Char) : List Char :=
  match rest with
  | '/' :: '/' :: more => more.takeWhile fun c => c ≠ '/' && c ≠ '?' && c ≠ '#'
  | _ => []

/-- A digit of base sixteen. -/
def isHexDigit (c : Char) : Bool :=
  c.isDigit || ('a' ≤ c && c ≤ 'f') || ('A' ≤ c && c ≤ 'F')

/-- One to four digits of base sixteen. -/
def isGroup (cs : List Char) : Bool :=
  0 < cs.length && cs.length ≤ 4 && cs.all isHexDigit

/-- A number from 0 to 255 without leading zeros. -/
def isOctet (cs : List Char) : Bool :=
  cs.all Char.isDigit && cs.length ≤ 3 && (cs = ['0'] || cs.head? ∉ [none, some '0'])
    && cs.foldl (fun n c => 10 * n + (c.toNat - 48)) 0 ≤ 255

/-- The last group may be four octets with points between; they stand for two groups. -/
def isDotted (cs : List Char) : Bool :=
  let octets := Text.split '.' cs
  octets.length = 4 && octets.all isOctet

/-- The number of groups, if each is one; the last may be dotted if `tail` holds. -/
def countGroups? (tail : Bool) : List (List Char) → Option Nat
  | [] => some 0
  | [last] =>
    if isGroup last then some 1 else if tail && isDotted last then some 2 else none
  | group :: groups => if isGroup group then (countGroups? tail groups).map (· + 1) else none

/-- The number of groups on one side of a gap, which may be empty. -/
def countSide? (tail : Bool) (cs : List Char) : Option Nat :=
  if cs.isEmpty then some 0 else countGroups? tail (Text.split ':' cs)

/-- What stands before and behind the first two colons in a row. -/
def cutGap? : List Char → Option (List Char × List Char)
  | ':' :: ':' :: cs => some ([], cs)
  | c :: cs => (cutGap? cs).map fun (before, after) => (c :: before, after)
  | [] => none

/-- Eight groups with colons between, or fewer with one gap for the others. -/
def isAddress (cs : List Char) : Bool :=
  match cutGap? cs with
  | none => countGroups? true (Text.split ':' cs) = some 8
  | some (before, after) =>
    match countSide? false before, countSide? true after with
    | some m, some n => m + n ≤ 7
    | _, _ => false

/-- An address, with a zone behind a per cent sign if it has one. -/
def isZonedAddress (cs : List Char) : Bool :=
  match Text.split '%' cs with
  | [address] => isAddress address
  | [address, zone] => isAddress address && !zone.isEmpty
  | _ => false

/-- A later kind of address: `v`, a number of base sixteen, a point and some text. -/
def isLaterAddress (cs : List Char) : Bool :=
  match cs.takeWhile isHexDigit, cs.dropWhile isHexDigit with
  | _ :: _, '.' :: _ :: _ => true
  | _, _ => false

/-- A host that may stand in brackets. -/
def isBracketHost : List Char → Bool
  | 'v' :: cs => isLaterAddress cs
  | cs => isZonedAddress cs

/-- Characters that are compatibility forms of a colon, slash, question mark, number or at sign. A
server with one of them could be taken for another. -/
def ambiguous : List Nat :=
  [0x2047, 0x2048, 0x2049, 0x2100, 0x2101, 0x2105, 0x2106, 0x2A74, 0xFE13, 0xFE16, 0xFE55, 0xFE56,
   0xFE5F, 0xFE6B, 0xFF03, 0xFF0F, 0xFF1A, 0xFF1F, 0xFF20]

/-- The part of a server behind the name of a user. -/
def hostPart (cs : List Char) : List Char := (cs.reverse.takeWhile (· ≠ '@')).reverse

/-- The host of a server that has brackets somewhere. Where it stands in brackets itself, nothing
may be in front of them and only a port behind. -/
def bracketHost? (cs : List Char) : Option (List Char) :=
  match hostPart cs with
  | '[' :: rest =>
    match (rest.dropWhile (· ≠ ']')).drop 1 with
    | [] | ':' :: _ => some (rest.takeWhile (· ≠ ']'))
    | _ => none
  | host => if '[' ∈ host then none else some (host.takeWhile (· ≠ ':'))

/-- A server with brackets that is not refused: it has both kinds, and its host is an address. -/
def isBracketServer (cs : List Char) : Bool :=
  '[' ∈ cs && ']' ∈ cs && (bracketHost? cs).elim false isBracketHost

/-- A server that is not refused: brackets go with an address, and no character is ambiguous. -/
def isServer (cs : List Char) : Bool :=
  (if '[' ∈ cs ∨ ']' ∈ cs then isBracketServer cs else true)
    && cs.all fun c => c.toNat ∉ ambiguous

/-- The scheme of a data source name, empty if there is none. -/
def scheme (dsn : String) : Except Error String :=
  let (scheme, rest) := splitScheme (clean dsn.toList)
  if isServer (server rest) then .ok (String.ofList scheme) else .error .badValue

example : isServer "[::1]:3306".toList = true := by decide +kernel

example : isServer "[1::2::3]".toList = false := by decide +kernel

example : isServer "[x]@v1.a:80".toList = true := by decide +kernel

example : isServer "[::1]x".toList = false := by decide +kernel

example : isServer "a]b".toList = false := by decide +kernel

end SqlRender.DataSource
