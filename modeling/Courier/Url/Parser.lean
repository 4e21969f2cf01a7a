import Courier.Url.Basic
import Courier.Url.Domain

/-!
# Reading URLs

A text is read part by part: scheme, authority, path, query, fragment. What can be written in
several ways comes out in one. Some schemes have rules of their own: their URLs always have an
authority, however many slashes there are, and its host is a domain name or an address.

## Main definitions

* `Url.Error`, `Url.Error.text`: why a text is no URL.
* `Url.parse`: the URL that a text describes.
-/

namespace Courier.Url

/-- Why a text is no URL whose path is a sequence of segments. -/
inductive Error where
  /-- There is no scheme. -/
  | noScheme
  /-- The path is not a sequence of segments. -/
  | noSegments
  /-- There is no host where there must be one. -/
  | emptyHost
  /-- The host is no domain name. -/
  | domain
  /-- The host has a character that no host has. -/
  | hostCharacter
  /-- The host is no address of 32 bits. -/
  | ipv4
  /-- The host is no address of 128 bits. -/
  | ipv6
  /-- The port is no number below 65536. -/
  | port
  deriving DecidableEq, Repr

/-- The words for an error. -/
def Error.text : Error → String
  | noScheme => "relative URL without a base"
  | noSegments => "cannot be a base"
  | emptyHost => "empty host"
  | domain => "invalid international domain name"
  | hostCharacter => "invalid domain character"
  | ipv4 => "invalid IPv4 address"
  | ipv6 => "invalid IPv6 address"
  | port => "invalid port number"

/-! ## Characters and spans -/

/-- Neither a control character nor a blank. -/
def isVisible (c : Char) : Bool := ' ' < c

/-- The characters that count: nothing invisible at the ends, no tabs and no line breaks. -/
def counted (cs : List Char) : List Char :=
  let tail := cs.dropWhile (!isVisible ·)
  (tail.reverse.dropWhile (!isVisible ·)).reverse.filter (!Path.isIgnored ·)

/-- The character may stand in a scheme. -/
def isSchemeChar (c : Char) : Bool :=
  c.isAlphanum || c == '+' || c == '-' || c == '.'

/-- The scheme in small letters, and what follows its colon. -/
def splitScheme? (cs : List Char) : Option (String × List Char) :=
  match cs.head?, cs.dropWhile isSchemeChar with
  | some first, ':' :: rest =>
    if first.isAlpha then
      some (String.ofList ((cs.takeWhile isSchemeChar).map Char.toLower), rest)
    else none
  | _, _ => none

/-- The character ends an authority. -/
def endsAuthority (special : Bool) (c : Char) : Bool :=
  c == '/' || c == '?' || c == '#' || (special && c == '\\')

/-- The character ends a path. -/
def endsPath (c : Char) : Bool :=
  c == '?' || c == '#'

/-- The host and what follows it. A colon between brackets does not end a host. -/
def splitHost (special : Bool) : Bool → List Char → List Char × List Char
  | _, [] => ([], [])
  | bracketed, c :: cs =>
    if endsAuthority special c ∨ (c = ':' ∧ ¬ bracketed) then ([], c :: cs)
    else
      let bracketed := if c = '[' then true else if c = ']' then false else bracketed
      let (host, rest) := splitHost special bracketed cs
      (c :: host, rest)

/-! ## Parts -/

/-- A user's name and password; an empty password is as good as none. -/
def readUserinfo (cs : List Char) : List Char :=
  let name := cs.takeWhile (· != ':')
  let password := cs.drop (name.length + 1)
  Percent.encode .userinfo name
    ++ if password = [] then [] else ':' :: Percent.encode .userinfo password

/-- The text between brackets as an address. -/
def readBracketed (cs : List Char) : Except Error Host :=
  if cs.getLast? = some ']' then
    match Host.ofPieces? (cs.drop 1).dropLast with
    | some host => .ok host
    | none => .error .ipv6
  else .error .ipv6

/-- The host of a URL with rules of its own: a domain name or an address. -/
def readDomain (cs : List Char) : Except Error Host :=
  if cs.head? = some '[' then readBracketed cs
  else
    match Domain.toAscii? (Percent.decode cs) with
    | none => .error .domain
    | some [] => .error .emptyHost
    | some name =>
      if Host.endsInNumber name then
        match Host.ofNumbers? name with
        | some host => .ok host
        | none => .error .ipv4
      else .ok (.name name)

/-- Characters that a host about which nothing is known does not have. -/
def isForbiddenInHost (c : Char) : Bool :=
  "\x00\t\n\r #/:<>?@[\\]^|".toList.contains c

/-- The host of any other URL. -/
def readHost (cs : List Char) : Except Error Host :=
  if cs.head? = some '[' then readBracketed cs
  else if cs.any isForbiddenInHost then .error .hostCharacter
  else .ok (.name (Percent.encode .host cs))

/-- A port and what follows it. The scheme's own port is not kept. -/
def readPort (scheme : String) (cs : List Char) : Except Error (Option Nat × List Char) :=
  let digits := cs.takeWhile Char.isDigit
  let rest := cs.dropWhile Char.isDigit
  match Host.numberIn? 10 digits with
  | none => .error .port
  | some port =>
    if 65535 < port ∨ rest.head?.any (fun c => !endsAuthority true c) then .error .port
    else if digits = [] ∨ portSchemes.lookup scheme = some port then .ok (none, rest)
    else .ok (some port, rest)

/-- The user in front of a host, and what follows: all up to the last `@` of the authority. -/
def splitUserinfo (special : Bool) (cs : List Char) : Except Error (List Char × List Char) :=
  let span := cs.takeWhile (!endsAuthority special ·)
  match Text.splitLast? '@' span with
  | none => .ok ([], cs)
  | some ([], after) =>
    if after = [] ∧ span.length < cs.length then .error .emptyHost else .ok ([], cs.drop 1)
  | some (user, _) => .ok (readUserinfo user, cs.drop (user.length + 1))

/-- An authority and what follows it. -/
def readAuthority (scheme : String) (cs : List Char) : Except Error (Authority × List Char) := do
  let special := isSpecial scheme
  let (userinfo, cs) ← splitUserinfo special cs
  let (text, rest) := splitHost special false cs
  if text = [] ∧ (special ∨ rest.head? = some ':' ∨ userinfo ≠ []) then
    .error .emptyHost
  let host ← if special then readDomain text else readHost text
  match rest with
  | ':' :: rest =>
    let (port, rest) ← readPort scheme rest
    .ok (⟨userinfo, host, port⟩, rest)
  | rest => .ok (⟨userinfo, host, none⟩, rest)

/-- The host in the URL of a file, and what follows it. A drive is no host, and the machine itself
needs no name. -/
def readFileHost (cs : List Char) : Except Error (Host × List Char) := do
  let text := cs.takeWhile (!endsAuthority true ·)
  if Path.isDrive text then .ok (.name [], cs)
  else if text = [] then .ok (.name [], cs)
  else
    let host ← readDomain text
    let host := if host = .name "localhost".toList then .name [] else host
    .ok (host, cs.drop text.length)

/-! ## URLs -/

/-- A text without the slash at its front. -/
def dropSlash (style : Path.Style) (cs : List Char) : List Char :=
  if cs.head?.any (Path.isSeparator style) then cs.drop 1 else cs

/-- The path in front of a query or fragment. -/
def readPath (style : Path.Style) (cs : List Char) : Path :=
  Path.read style (cs.takeWhile (!endsPath ·))

/-- The query and the fragment that end a URL. -/
def readEnd (special : Bool) (cs : List Char) : Option (List Char) × Option (List Char) :=
  let (query, cs) := match cs.dropWhile (!endsPath ·) with
    | '?' :: rest =>
      (some (Percent.encode (.query special) (rest.takeWhile (· != '#'))),
        rest.dropWhile (· != '#'))
    | rest => (none, rest)
  (query, match cs with
    | '#' :: rest => some (Percent.encode .fragment rest)
    | _ => none)

/-- A URL with the given scheme, authority and path; the rest of the text ends it. -/
def close (scheme : String) (authority : Option Authority) (path : Path) (cs : List Char) : Url :=
  let (query, fragment) := readEnd (isSpecial scheme) cs
  let isSetOff := authority.isNone && decide (2 ≤ path.length) && path.head? == some []
  { scheme, authority, isSetOff, path, query, fragment }

/-- The URL at a known authority whose path, query and fragment the text gives. -/
def within (scheme : String) (authority : Authority) (cs : List Char) : Url :=
  let cs := cs.filter (!Path.isIgnored ·)
  let style := pathStyle scheme
  close scheme (some authority) (readPath style (dropSlash style cs)) cs

/-- What follows the scheme and two slashes. -/
def readAfterSlashes (scheme : String) (cs : List Char) : Except Error Url := do
  let (authority, rest) ← readAuthority scheme cs
  let style := pathStyle scheme
  let path :=
    if ¬ isSpecial scheme ∧ rest.head?.all endsPath then []
    else readPath style (dropSlash style rest)
  .ok (close scheme (some authority) path rest)

/-- What follows the scheme in the URL of a file. A drive makes the host useless. -/
def readFile (cs : List Char) : Except Error Url := do
  let style := pathStyle fileScheme
  let separates := Path.isSeparator style
  let (host, rest) ←
    if (cs.take 2).length = 2 ∧ (cs.take 2).all separates then readFileHost (cs.drop 2)
    else .ok (.name [], cs)
  let path := readPath style (dropSlash style rest)
  let host := if path.head?.any Path.isDrive then .name [] else host
  .ok (close fileScheme (some { host }) (path.trimFront style) rest)

/-- The URL that a text describes. -/
def parse (cs : List Char) : Except Error Url :=
  match splitScheme? (counted cs) with
  | none => .error .noScheme
  | some (scheme, rest) =>
    if scheme = fileScheme then readFile rest
    else if isSpecial scheme then
      readAfterSlashes scheme (rest.dropWhile (Path.isSeparator (pathStyle scheme)))
    else
      match rest with
      | '/' :: '/' :: rest => readAfterSlashes scheme rest
      | '/' :: rest => .ok (close scheme none (readPath (pathStyle scheme) rest) rest)
      | _ => .error .noSegments

end Courier.Url
