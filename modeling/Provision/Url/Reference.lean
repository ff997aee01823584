import Provision.Url.Basic
import Provision.Url.Domain

/-!
Reading URLs, by themselves or relative to another. A text is read from left to right after blanks
around it and line breaks within it are dropped.
-/
namespace Provision.Url

inductive Fault where
  | emptyHost
  | badDomainName
  /-- A host of a scheme without rules for domain names holds a character that no host may hold. -/
  | badHostCharacter
  | badPort
  | badIpv4
  | badIpv6
  | noBase
  | rootlessBase
deriving DecidableEq, Repr

def Fault.message : Fault → String
  | .emptyHost => "empty host"
  | .badDomainName => "invalid international domain name"
  | .badHostCharacter => "invalid domain character"
  | .badPort => "invalid port number"
  | .badIpv4 => "invalid IPv4 address"
  | .badIpv6 => "invalid IPv6 address"
  | .noBase => "relative URL without a base"
  | .rootlessBase => "relative URL with a cannot-be-a-base base"

/-- Whether a character is dropped at both ends of a text. -/
def isPadding (c : Char) : Bool := c.toNat ≤ 0x20

/-- Whether a character is dropped everywhere. -/
def isBreak (c : Char) : Bool := c == '\t' || c == '\n' || c == '\r'

def clean (text : List Char) : List Char :=
  ((((text.dropWhile isPadding).reverse).dropWhile isPadding).reverse).filter (!isBreak ·)

def isSlash (special : Bool) (c : Char) : Bool := c == '/' || (special && c == '\\')

def endsPath (c : Char) : Bool := c == '?' || c == '#'

/-- Whether a character may follow the first letter of a scheme. -/
def isSchemeChar (c : Char) : Bool := c.isAlphanum || c == '+' || c == '-' || c == '.'

/-- The scheme that a text starts with, in lower case, and the text after its colon. -/
def splitScheme? (text : List Char) : Option (List Char × List Char) :=
  match text.head?, text.dropWhile isSchemeChar with
  | some first, ':' :: rest =>
    if first.isAlpha then some ((text.takeWhile isSchemeChar).map Char.toLower, rest) else none
  | _, _ => none

def splitQuery (special : Bool) (text : List Char) : Option (List Char) × Option (List Char) :=
  let (front, fragment) := Text.cutFirst (· == '#') text
  let query :=
    match front with
    | '?' :: query =>
      some (percentEncode (if special then inSpecialQuerySet else inQuerySet) query)
    | _ => none
  (query, fragment.map (percentEncode inFragmentSet))

def isDoubleDot (segment : List Char) : Bool :=
  [".", "%2e"].any fun first => [".", "%2e"].any fun second =>
    segment.map Char.toLower == first.toList ++ second.toList

def isSingleDot (segment : List Char) : Bool :=
  segment == ['.'] || segment.map Char.toLower == ['%', '2', 'e']

/-- Whether a segment is the name of a drive: a letter and a colon or a bar. -/
def isDrive : List Char → Bool
  | [letter, mark] => letter.isAlpha && (mark == ':' || mark == '|')
  | _ => false

/-- Whether a segment is the name of a drive with a colon. -/
def isPlainDrive (segment : List Char) : Bool := isDrive segment && segment.getLast? == some ':'

/-- Go up a segment; the name of a drive is never left. -/
def goUp (segments : List (List Char)) : List (List Char) :=
  if segments.getLast?.any isDrive then segments else segments.dropLast

/-- A segment as it stands in a path below other segments. A file path writes a drive in first place
with a colon. -/
def segmentText (file : Bool) (above : List (List Char)) (segment : List Char) : List Char :=
  match segment with
  | [letter, '|'] => if file && above.isEmpty && letter.isAlpha then [letter, ':']
    else percentEncode inPathSet segment
  | _ => percentEncode inPathSet segment

/-- Walk from a place in a tree of segments along the pieces of a path. -/
def walk (file : Bool) (above : List (List Char)) : List (List Char) → List (List Char)
  | [] => above
  | [last] =>
    if isDoubleDot last then goUp above ++ [[]]
    else if isSingleDot last then above ++ [[]]
    else above ++ [segmentText file above last]
  | piece :: pieces =>
    if isDoubleDot piece then walk file (goUp above) pieces
    else if isSingleDot piece then walk file above pieces
    else walk file (above ++ [segmentText file above piece]) pieces

/-- The path of a file has no empty segments in front. -/
def tidyFile (segments : List (List Char)) : List (List Char) :=
  match segments.dropWhile List.isEmpty with
  | [] => [[]]
  | tidy => tidy

def readPath (scheme : List Char) (above : List (List Char)) (text : List Char) :
    List (List Char) :=
  let segments := walk (isFile scheme) above (Text.split (isSlash (isSpecial scheme)) text)
  if isFile scheme then tidyFile segments else segments

/-- The URL of a scheme and an authority with the path, query and fragment that a text leads to from
a place. -/
def follow (scheme : List Char) (authority : Option Authority) (above : List (List Char))
    (text : List Char) : Url :=
  let (query, fragment) := splitQuery (isSpecial scheme) (text.dropWhile (!endsPath ·))
  { scheme, authority, query, fragment
    path := .rooted (readPath scheme above (text.takeWhile (!endsPath ·))) }

/-- The URL of a scheme and an authority with what follows them. -/
def followAuthority (scheme : List Char) (authority : Authority) (text : List Char) : Url :=
  match text with
  | [] => if isSpecial scheme then follow scheme authority [] [] else
      ⟨scheme, authority, .rooted [], none, none⟩
  | c :: rest =>
    if isSlash (isSpecial scheme) c then follow scheme authority [] rest
    else if endsPath c && !isSpecial scheme then
      let (query, fragment) := splitQuery false text
      ⟨scheme, authority, .rooted [], query, fragment⟩
    else follow scheme authority [] text

/-- An IPv6 address in brackets, the first of which is taken off already. -/
def readIpv6 (text : List Char) : Except Fault Host :=
  match text.getLast?, ipv6? text.dropLast with
  | some ']', some pieces => .ok (.ipv6 pieces)
  | _, _ => .error .badIpv6

def isForbiddenInHost (c : Char) : Bool :=
  c.toNat == 0 || isBreak c ||
    [' ', '#', '/', ':', '<', '>', '?', '@', '[', '\\', ']', '^', '|'].contains c

def readSpecialHost (text : List Char) : Except Fault Host :=
  match text with
  | '[' :: rest => readIpv6 rest
  | _ =>
    match domainToAscii? text with
    | none => .error .badDomainName
    | some [] => .error .emptyHost
    | some name =>
      if endsInNumber name then
        match ipv4? name with
        | some address => .ok (.ipv4 address)
        | none => .error .badIpv4
      else .ok (.domain name)

def readPlainHost (text : List Char) : Except Fault Host :=
  match text with
  | '[' :: rest => readIpv6 rest
  | _ =>
    if text.any isForbiddenInHost then .error .badHostCharacter
    else .ok (.domain (percentEncode isControl text))

/-- The host that a text starts with, up to a colon that is in no brackets. -/
def splitHost (special bracketed : Bool) : List Char → List Char × List Char
  | [] => ([], [])
  | c :: text =>
    if isSlash special c || endsPath c || (c == ':' && !bracketed) then ([], c :: text)
    else
      let bracketed := c == '[' || (bracketed && c != ']')
      let (host, rest) := splitHost special bracketed text
      (c :: host, rest)

/-- The port that a text starts with, and the text after it. -/
def readPort (scheme text : List Char) : Except Fault (Option Nat × List Char) :=
  let digits := text.takeWhile Char.isDigit
  let rest := text.dropWhile Char.isDigit
  let port := digits.foldl (fun value d => value * 10 + (d.toNat - 48)) 0
  if port > 65535 || !(rest.head?.all fun c => isSlash true c || endsPath c) then .error .badPort
  else if digits.isEmpty || defaultPort? scheme == some port then .ok (none, rest)
  else .ok (some port, rest)

/-- The user name and the password of an authority, in front of its last at sign. -/
def readUserinfo (text : List Char) : List Char × List Char :=
  let (username, password) := Text.cutFirst (· == ':') text
  (percentEncode inUserinfoSet username, percentEncode inUserinfoSet (password.getD []))

def cutLastAt (text : List Char) : Option (List Char) × List Char :=
  match Text.cutFirst (· == '@') text.reverse with
  | (_, none) => (none, text)
  | (after, some before) => (some before.reverse, after.reverse)

def readAuthority (scheme text : List Char) : Except Fault Url := do
  let special := isSpecial scheme
  let ends := fun (c : Char) => isSlash special c || endsPath c
  let (userinfo, front) := cutLastAt (text.takeWhile (!ends ·))
  let beyond := text.dropWhile (!ends ·)
  if userinfo == some [] && front.isEmpty && !beyond.isEmpty then throw .emptyHost
  let (username, password) := readUserinfo (userinfo.getD [])
  let (hostText, rest) := splitHost special false (front ++ beyond)
  if special && hostText.isEmpty then throw .emptyHost
  let host ← if special then readSpecialHost hostText else readPlainHost hostText
  let bare := host == .domain []
  match rest with
  | ':' :: rest =>
    if bare then throw .emptyHost
    let (port, rest) ← readPort scheme rest
    return followAuthority scheme ⟨username, password, host, port⟩ rest
  | _ =>
    if bare && !(username.isEmpty && password.isEmpty) then throw .emptyHost
    return followAuthority scheme ⟨username, password, host, none⟩ rest

/-- The URL of a file on a host, with what a text leads to from a place. -/
def fileUrl (host : Host) (above : List (List Char)) (text : List Char) : Url :=
  follow "file".toList (some ⟨[], [], host, none⟩) above text

/-- Whether the path that a text leads to from the root starts with the name of a drive. -/
def leadsToDrive (text : List Char) : Bool :=
  let pieces := Text.split (isSlash true) (text.takeWhile (!endsPath ·))
  (walk true [] pieces).head?.any isDrive

/-- The URL of a file with what follows its host. The slash after a host leads to the root, where
the name of a drive takes the host's place. Where no host is named, the root is reached already: the
slash ends an empty segment, and a name after it is no longer in first place. -/
def fileOnHost (host : Host) (text : List Char) : Url :=
  if host == .domain [] then fileUrl host [] text
  else
    let path := if text.head?.any (isSlash true) then text.drop 1 else text
    fileUrl (if leadsToDrive path then .domain [] else host) [] path

def readFileHost (text : List Char) : Except Fault Host :=
  if text.isEmpty then .ok (.domain [])
  else
    (readSpecialHost text).map fun host =>
      if host == .domain "localhost".toList then .domain [] else host

def startsWithDrive : List Char → Bool
  | letter :: mark :: rest =>
    isDrive [letter, mark] && rest.head?.all fun c => isSlash true c || endsPath c
  | _ => false

/-- The segments and the host of a file, if a URL names one. -/
def fileParts? (base : Url) : Option (List (List Char) × Host) :=
  match base.path with
  | .rooted segments =>
    if isFile base.scheme then
      some (segments, (base.authority.map Authority.host).getD (.domain []))
    else none
  | .rootless _ => none

/-- A reference without a path: the base with another query or fragment. -/
def amend (base : Url) (text : List Char) : Url :=
  let (query, fragment) := splitQuery (isSpecial base.scheme) text
  if text.head? == some '?' then { base with query, fragment } else { base with fragment }

/-- Read what follows the scheme of a file, relative to another file. A text without a slash in
front goes into the folder of the other file; the name of a drive in first place is a folder,
elsewhere the text continues it. -/
def readFile (base : Option Url) (text : List Char) : Except Fault Url :=
  let slash := isSlash true
  match text with
  | a :: b :: rest =>
    if slash a && slash b then
      let name := rest.takeWhile fun c => !(slash c || endsPath c)
      if isDrive name then .ok (fileUrl (.domain []) [] rest)
      else
        (readFileHost name).map fun host => fileOnHost host (rest.drop name.length)
    else relative text
  | text => relative text
where
  relative (text : List Char) : Except Fault Url :=
    match base.bind fun base => (fileParts? base).map fun parts => (base, parts) with
    | none =>
      .ok (fileUrl (.domain []) [] (if text.head?.any (isSlash true) then text.drop 1 else text))
    | some (base, segments, host) =>
      match text with
      | [] => .ok (amend base [])
      | c :: rest =>
        if isSlash true c then
          let drive := segments.head?.filter isPlainDrive
          if startsWithDrive rest then .ok (fileUrl (.domain []) [] rest)
          else if drive.isSome then .ok (fileUrl (.domain []) drive.toList rest)
          else .ok (fileUrl host [] rest)
        else if endsPath c then .ok (amend base text)
        else if startsWithDrive text then .ok (fileUrl (.domain []) [] text)
        else
          match segments, segments.getLast?.filter isPlainDrive with
          | [_], some _ => .ok (fileUrl host segments text)
          | _, drive => .ok (fileUrl host segments.dropLast (drive.getD [] ++ text))

/-- Resolve a text without a scheme against a base that is no file. -/
def readRelative (base : Url) (above : List (List Char)) (text : List Char) : Except Fault Url :=
  let slash := isSlash true
  match text with
  | [] => .ok (amend base [])
  | c :: rest =>
    if endsPath c then .ok (amend base text)
    else if slash c then
      if rest.head?.any slash then
        readAuthority base.scheme
          (if text.take 2 == ['/', '/'] then text.drop 2 else text.dropWhile slash)
      else .ok (follow base.scheme base.authority [] rest)
    else .ok (follow base.scheme base.authority above.dropLast text)

def readPlain (scheme text : List Char) : Except Fault Url :=
  match text with
  | '/' :: '/' :: rest => readAuthority scheme rest
  | '/' :: rest => .ok (follow scheme none [] rest)
  | _ =>
    let (query, fragment) := splitQuery false (text.dropWhile (!endsPath ·))
    .ok
      { scheme, authority := none, query, fragment
        path := .rootless (percentEncode isControl (text.takeWhile (!endsPath ·))) }

/-- Resolve a cleaned text against a base, if there is one. -/
def resolve (base : Option Url) (text : List Char) : Except Fault Url :=
  match splitScheme? text with
  | some (scheme, rest) =>
    if isFile scheme then readFile base rest
    else if isSpecial scheme then
      match base with
      | some ⟨baseScheme, authority, .rooted segments, query, fragment⟩ =>
        if baseScheme == scheme && (rest.takeWhile (isSlash true)).length < 2 then
          readRelative ⟨baseScheme, authority, .rooted segments, query, fragment⟩ segments rest
        else readAuthority scheme (rest.dropWhile (isSlash true))
      | _ => readAuthority scheme (rest.dropWhile (isSlash true))
    else readPlain scheme rest
  | none =>
    match base with
    | none => .error .noBase
    | some base =>
      if text.head? == some '#' then .ok (amend base text)
      else
        match base.path with
        | .rootless _ => .error .rootlessBase
        | .rooted segments =>
          if isFile base.scheme then readFile base text else readRelative base segments text

def ofChars (text : List Char) : Except Fault Url := resolve none (clean text)

def ofString (text : String) : Except Fault Url := ofChars text.toList

def join (base : Url) (reference : List Char) : Except Fault Url := resolve base (clean reference)

end Provision.Url
