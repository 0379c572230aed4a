import Columnar.Fault
import Columnar.Url.Domain.Name
import Columnar.Url.Percent

/-!
Hosts of URLs: addresses of four and of sixteen bytes, and domain names.

Each reader gives the one text that the host has in a normalised URL. Where a scheme has hosts of
its own kind, a host is kept as it is, apart from percent coding.
-/

namespace Columnar.Url

/-! ### Addresses of four bytes -/

/-- Digits in the given base, read as a number. -/
def inBase (base : Nat) (digits : List Char) : Nat :=
  digits.foldl (fun n c => base * n + (hexValue? c).getD 0) 0

/-- A number in base ten, in base eight after `0`, or in base sixteen after `0x`. -/
def readAddressNumber? : List Char → Option Nat
  | [] => none
  | '0' :: 'x' :: digits | '0' :: 'X' :: digits =>
    if digits.all fun c => (hexValue? c).isSome then some (inBase 16 digits) else none
  | '0' :: c :: digits =>
    if (c :: digits).all fun c => '0' ≤ c && c ≤ '7' then some (inBase 8 (c :: digits)) else none
  | digits => if digits.all Char.isDigit then some (inBase 10 digits) else none

/-- The parts of a name between points, without an empty one at the end. -/
def nameParts (name : List Char) : List (List Char) :=
  let parts := name.splitOn '.'
  if parts.getLast? = some [] then parts.dropLast else parts

/-- Whether a name is meant as an address: its last part is a number. -/
def endsInNumber (name : List Char) : Bool :=
  match (nameParts name).getLast? with
  | none | some [] => false
  | some last => last.all Char.isDigit || (readAddressNumber? last).isSome

/-- The value of an address given by one to four numbers, of which the last fills the rest. -/
def addressValue? (numbers : List Nat) : Option Nat :=
  match numbers.reverse with
  | [] => none
  | last :: others =>
    if others.length ≤ 3 && last < Nat.pow 256 (4 - others.length) && others.all (· < 256) then
      some (others.reverse.zipIdx.foldl (fun sum (n, i) => sum + n * Nat.pow 256 (3 - i)) last)
    else none

/-- An address of four bytes, in numbers between points. -/
def ipv4Text (value : Nat) : String :=
  ".".intercalate ([3, 2, 1, 0].map fun i => toString (value / Nat.pow 256 i % 256))

/-- Reads a name that is meant as an address. -/
def readIpv4? (name : List Char) : Option String :=
  ((nameParts name).mapM readAddressNumber?).bind fun numbers =>
    (addressValue? numbers).map ipv4Text

/-! ### Addresses of sixteen bytes -/

/-- Reads a group of one to four digits in base sixteen. -/
def readGroup? (s : List Char) : Option Nat :=
  if s.isEmpty || 4 < s.length || !s.all (fun c => (hexValue? c).isSome) then none
  else some (inBase 16 s)

/-- Reads one number of an address of four bytes inside a longer one: no zero in front. -/
def readByte? (s : List Char) : Option Nat :=
  if s.isEmpty || !s.all Char.isDigit || (s.head? = some '0' && 1 < s.length) then none
  else (some (inBase 10 s)).filter (· < 256)

/-- Reads the groups between colons; the last may be an address of four bytes. -/
def readGroups? : List (List Char) → Option (List Nat)
  | [] => some []
  | [last] =>
    if last.contains '.' then
      match (last.splitOn '.').mapM readByte? with
      | some [a, b, c, d] => some [256 * a + b, 256 * c + d]
      | _ => none
    else (readGroup? last).map fun n => [n]
  | group :: groups => do pure ((← readGroup? group) :: (← readGroups? groups))

/-- The two sides of the first `::` in a text. -/
def atGap? : List Char → Option (List Char × List Char)
  | ':' :: ':' :: rest => some ([], rest)
  | c :: rest => (atGap? rest).map fun (before, after) => (c :: before, after)
  | [] => none

/-- Reads groups between colons, possibly none. -/
def readSide? (s : List Char) : Option (List Nat) :=
  if s.isEmpty then some [] else readGroups? (s.splitOn ':')

/-- Reads the eight groups of an address; a gap stands for one or more groups of zero. -/
def readIpv6? (s : List Char) : Option (List Nat) :=
  match atGap? s with
  | none => (readSide? s).filter (·.length = 8)
  | some (before, after) => do
    if before.contains '.' then none
    let before ← readSide? before
    let after ← readSide? after
    let given := before.length + after.length
    if given < 8 then pure (before ++ List.replicate (8 - given) 0 ++ after) else none

/-- The length of the run of zeros that a list begins with. -/
def zeroRun (groups : List Nat) : Nat :=
  (groups.takeWhile (· = 0)).length

/-- The place and length of the first of the longest runs of zeros. -/
def longestZeroRun (groups : List Nat) : Nat × Nat :=
  (List.range groups.length).foldl (fun best i =>
    let length := zeroRun (groups.drop i)
    if best.2 < length then (i, length) else best) (0, 0)

/-- Groups in base sixteen with colons between them. -/
def groupsText (groups : List Nat) : String :=
  ":".intercalate (groups.map fun n => String.ofList (Text.hexDigits n))

/-- An address of sixteen bytes in brackets; the longest run of zeros becomes a gap. -/
def ipv6Text (groups : List Nat) : String :=
  let (place, length) := longestZeroRun groups
  let inside :=
    if length < 2 then groupsText groups
    else groupsText (groups.take place) ++ "::" ++ groupsText (groups.drop (place + length))
  "[" ++ inside ++ "]"

/-- Reads an address in brackets. -/
def readBracketed (s : List Char) : Except UrlFault String :=
  match s.getLast?, readIpv6? s.dropLast with
  | some ']', some groups => .ok (ipv6Text groups)
  | _, _ => .error .ipv6

/-! ### Hosts -/

/-- Reads the host of a scheme whose hosts are domain names and addresses. -/
def readHost (s : List Char) : Except UrlFault String :=
  match s with
  | '[' :: rest => readBracketed rest
  | s =>
    match (Text.decodeUtf8? (percentDecode s)).bind fun name => Domain.read? name.toList with
    | none => .error .domain
    | some [] => .error .emptyHost
    | some domain =>
      if endsInNumber domain then
        match readIpv4? domain with
        | some address => .ok address
        | none => .error .ipv4
      else .ok (String.ofList domain)

/-- Characters that no host has. -/
def isForbiddenInHost (c : Char) : Bool :=
  ['\x00', '\t', '\n', '\r', ' ', '#', '/', ':', '<', '>', '?', '@', '[', '\\', ']', '^',
    '|'].contains c

/-- Reads the host of any other scheme. -/
def readOpaqueHost (s : List Char) : Except UrlFault String :=
  match s with
  | '[' :: rest => readBracketed rest
  | s =>
    if s.any isForbiddenInHost then .error .character
    else .ok (String.ofList (percentEncode [] s))

end Columnar.Url
