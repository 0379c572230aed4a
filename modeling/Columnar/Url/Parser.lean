import Columnar.Url.Host

/-!
Reading and normalising URLs.

A URL is a scheme and either an authority (credentials, host and port) with a path, or a path alone;
a query and a fragment may follow. The schemes of the web have a host, a port of their own, and
backslashes that count as slashes.
-/

namespace Columnar

/-- A URL in parts, each in its normalised form. -/
structure Url where
  scheme : String
  /-- Credentials, host and port; `none` where the URL has only a path. -/
  authority : Option String
  path : String
  query : Option String
  fragment : Option String
  deriving DecidableEq, Repr

namespace Url

/-- The URL as one text. A path that begins with two slashes is kept apart from an authority. -/
def text (u : Url) : String :=
  let start := match u.authority with
    | some authority => "//" ++ authority
    | none => if ['/', '/'].isPrefixOf u.path.toList then "/." else ""
  u.scheme ++ ":" ++ start ++ u.path ++ (u.query.map ("?" ++ ·)).getD ""
    ++ (u.fragment.map ("#" ++ ·)).getD ""

/-! ### Schemes -/

/-- The kinds of schemes. -/
inductive SchemeKind where
  /-- Schemes of the web, with the port they use when a URL names none. -/
  | web (port : Nat)
  | file
  | plain
  deriving DecidableEq

/-- The kind of a scheme. -/
def SchemeKind.of (scheme : String) : SchemeKind :=
  match scheme with
  | "http" | "ws" => web 80
  | "https" | "wss" => web 443
  | "ftp" => web 21
  | "file" => file
  | _ => plain

/-- Whether a kind of scheme takes a backslash for a slash. -/
def SchemeKind.isSpecial (kind : SchemeKind) : Bool :=
  kind != plain

/-- Whether a character separates the parts of a path. -/
def SchemeKind.isSlash (kind : SchemeKind) (c : Char) : Bool :=
  c = '/' || (kind.isSpecial && c = '\\')

/-- Characters of a scheme behind its first letter. -/
def isSchemeChar (c : Char) : Bool :=
  c.isAlphanum || c = '+' || c = '-' || c = '.'

/-- The scheme that a text begins with, in small letters, and what follows its colon. -/
def readScheme? (s : List Char) : Option (String × List Char) :=
  match s.head?, s.dropWhile isSchemeChar with
  | some first, ':' :: rest =>
    if first.isAlpha then
      some (String.ofList ((s.takeWhile isSchemeChar).map Char.toLower), rest)
    else none
  | _, _ => none

/-! ### Authority -/

/-- Whether a character ends an authority. -/
def SchemeKind.endsAuthority (kind : SchemeKind) (c : Char) : Bool :=
  kind.isSlash c || c = '?' || c = '#'

/-- A name and a password in front of a host, as they are written there. -/
def credentialsText (s : List Char) : String :=
  let name := percentEncode credentialSet (s.takeWhile (· != ':'))
  let password := percentEncode credentialSet ((s.dropWhile (· != ':')).drop 1)
  let both := name ++ (if password.isEmpty then [] else ':' :: password)
  if both.isEmpty then "" else String.ofList (both ++ ['@'])

/-- The credentials in front of a host, and what follows them: what stands before and after the last
at sign of an authority. -/
def atCredentials (kind : SchemeKind) (s : List Char) : Option (List Char) × List Char :=
  let authority := s.takeWhile fun c => !kind.endsAuthority c
  if authority.contains '@' then
    let length := authority.length - (authority.reverse.takeWhile (· != '@')).length
    (some (s.take (length - 1)), s.drop length)
  else (none, s)

/-- The host that a text begins with, and what follows it; colons in brackets belong to the host. -/
def atHost (kind : SchemeKind) (inBrackets : Bool) : List Char → List Char × List Char
  | [] => ([], [])
  | c :: rest =>
    if (c = ':' && !inBrackets) || kind.endsAuthority c then ([], c :: rest)
    else
      let inBrackets := if c = '[' then true else if c = ']' then false else inBrackets
      let (host, after) := atHost kind inBrackets rest
      (c :: host, after)

/-- Whether a character may follow a port. -/
def endsPort (c : Char) : Bool :=
  ['/', '\\', '?', '#'].contains c

/-- Reads a port that follows a host, and returns what follows it: no text for no digits, and none
for the scheme's own port. -/
def readPort (kind : SchemeKind) : List Char → Except UrlFault (String × List Char)
  | ':' :: s =>
    let digits := s.takeWhile Char.isDigit
    let rest := s.dropWhile Char.isDigit
    let n := Text.digitsValue digits
    if 65535 < n || rest.head?.any (!endsPort ·) then .error .port
    else .ok (if digits.isEmpty || kind = .web n then "" else ":" ++ toString n, rest)
  | s => .ok ("", s)

/-- Reads an authority (credentials, a host and a port), and returns what follows it. -/
def readAuthority (kind : SchemeKind) (s : List Char) : Except UrlFault (String × List Char) := do
  let (credentials, s) := atCredentials kind s
  if credentials = some [] && s.head?.any kind.endsAuthority then throw .emptyHost
  let credentials := (credentials.map credentialsText).getD ""
  let (hostPart, s) := atHost kind false s
  if hostPart.isEmpty && (kind.isSpecial || credentials != "" || s.head? = some ':') then
    throw .emptyHost
  let host ← if kind.isSpecial then readHost hostPart else readOpaqueHost hostPart
  let (port, s) ← readPort kind s
  pure (credentials ++ host ++ port, s)

/-! ### Paths -/

/-- A segment that stands for the segment itself. -/
def isSingleDot (segment : List Char) : Bool :=
  [".", "%2e"].contains (String.ofList (segment.map Char.toLower))

/-- A segment that stands for the segment before it. -/
def isDoubleDot (segment : List Char) : Bool :=
  ["..", ".%2e", "%2e.", "%2e%2e"].contains (String.ofList (segment.map Char.toLower))

/-- A segment that names a drive: a letter and a colon, or a bar in its place. -/
def isDrive (segment : List Char) : Bool :=
  match segment with
  | [letter, mark] => letter.isAlpha && (mark = ':' || mark = '|')
  | _ => false

/-- The part of a text in front of a query and a fragment. -/
def beforeQuery (s : List Char) : List Char :=
  s.takeWhile fun c => c != '?' && c != '#'

/-- One segment of a path as it is written, behind so many others. A file's path that begins with a
drive has a colon there. -/
def segmentText (kind : SchemeKind) (isFirst : Bool) (segment : List Char) : List Char :=
  if kind = .file && isFirst && isDrive segment then segment.take 1 ++ [':']
  else percentEncode pathSet segment

/-- The segments that remain once the dots are followed, which do not lead out of a drive; the
result is in reverse. -/
def followDots (kind : SchemeKind) : List (List Char) → List (List Char) → List (List Char)
  | done, [] => done
  | done, segment :: rest =>
    let isLast := rest.isEmpty
    let done :=
      if isDoubleDot segment then
        let above := if done.head?.any isDrive then done else done.drop 1
        if isLast then [] :: above else above
      else if isSingleDot segment then if isLast then [] :: done else done
      else segmentText kind done.isEmpty segment :: done
    followDots kind done rest

/-- The segments of a path behind its first slash. -/
def segments (kind : SchemeKind) (s : List Char) : List (List Char) :=
  let s := (beforeQuery s).map fun c => if kind.isSlash c then '/' else c
  (followDots kind [] (s.splitOn '/')).reverse

/-- A path of the given segments. -/
def pathText (segments : List (List Char)) : String :=
  String.ofList ('/' :: ['/'].intercalate segments)

/-- A text without the slash it begins with. -/
def withoutSlash (kind : SchemeKind) : List Char → List Char
  | [] => []
  | c :: rest => if kind.isSlash c then rest else c :: rest

/-- The path behind an authority. -/
def readPath (kind : SchemeKind) (s : List Char) : String :=
  if (beforeQuery s).isEmpty && !kind.isSpecial then ""
  else pathText (segments kind (withoutSlash kind s))

/-! ### Whole URLs -/

/-- A text without what follows the first occurrence of a character, and what follows it. -/
def cutAt (c : Char) (s : List Char) : List Char × Option (List Char) :=
  match s.dropWhile (· != c) with
  | [] => (s, none)
  | _ :: rest => (s.takeWhile (· != c), some rest)

/-- Reads an authority and the path behind it. -/
def readWithAuthority (kind : SchemeKind) (s : List Char) :
    Except UrlFault (Option String × String) := do
  let (authority, s) ← readAuthority kind s
  pure (some authority, readPath kind s)

/-- A file on a host, which is not written for this computer. The path is that of the given segments
without the empty ones in front. -/
def fileOn (host : String) (segments : List (List Char)) : Option String × String :=
  (some host, pathText (segments.dropWhile List.isEmpty))

/-- Reads the host of a file and the path behind it, after two slashes. A path that begins with a
drive leads to this computer. -/
def readFileHost (s : List Char) : Except UrlFault (Option String × String) := do
  let hostPart := s.takeWhile fun c => !SchemeKind.file.endsAuthority c
  if hostPart.isEmpty || isDrive hostPart then pure (fileOn "" (segments .file s))
  else
    let host ← readHost hostPart
    let s := s.drop hostPart.length
    if host = "localhost" then pure (fileOn "" (segments .file s))
    else
      let segments := segments .file (withoutSlash .file s)
      pure (fileOn (if segments.head?.any isDrive then "" else host) segments)

/-- Reads the host and the path of a file. -/
def readFile (s : List Char) : Except UrlFault (Option String × String) :=
  match s with
  | a :: b :: rest =>
    if SchemeKind.file.isSlash a && SchemeKind.file.isSlash b then readFileHost rest
    else .ok (fileOn "" (segments .file (withoutSlash .file s)))
  | _ => .ok (fileOn "" (segments .file (withoutSlash .file s)))

/-- Reads what stands between a scheme and a query or a fragment. -/
def readHierarchy (kind : SchemeKind) (s : List Char) :
    Except UrlFault (Option String × String) :=
  match kind, s with
  | .web _, s => readWithAuthority kind (s.dropWhile kind.isSlash)
  | .file, s => readFile s
  | .plain, '/' :: '/' :: rest => readWithAuthority kind rest
  | .plain, '/' :: rest => .ok (none, pathText (segments kind rest))
  | .plain, s => .ok (none, String.ofList (percentEncode [] (beforeQuery s)))

/-- The text without the controls and spaces around it and the line breaks and tabs in it. -/
def cleaned (s : List Char) : List Char :=
  let isEdge (c : Char) : Bool := c.toNat ≤ 0x20
  let s := ((s.dropWhile isEdge).reverse.dropWhile isEdge).reverse
  s.filter fun c => c != '\t' && c != '\n' && c != '\r'

/-- The URL of a scheme and what follows its colon. -/
def ofScheme (scheme : String) (s : List Char) : Except UrlFault Url := do
  let kind := SchemeKind.of scheme
  let (authority, path) ← readHierarchy kind s
  let (beforeFragment, fragment) := cutAt '#' s
  let query := (cutAt '?' beforeFragment).2
  let queryEncoded := if kind.isSpecial then specialQuerySet else querySet
  pure
    { scheme, authority, path
      query := query.map fun s => String.ofList (percentEncode queryEncoded s)
      fragment := fragment.map fun s => String.ofList (percentEncode fragmentSet s) }

/-- Reads a URL. -/
def read (text : String) : Except UrlFault Url :=
  match readScheme? (cleaned text.toList) with
  | none => .error .noBase
  | some (scheme, s) => ofScheme scheme s

end Url

end Columnar
