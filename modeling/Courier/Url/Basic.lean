import Courier.Url.Host
import Courier.Url.Path

/-!
# URLs

A URL names a scheme, mostly an authority, a path, and maybe a query and a fragment. Every part is
kept as it is written, so writing a URL is putting its parts together. Only URLs whose path is a
sequence of segments are URLs here.

## Main definitions

* `Url`, `Url.Authority`.
* `Url.text`: the whole URL.
* `Url.target`: what is asked for at the authority.
* `Url.child`: the URL one segment further on.
-/

namespace Courier

namespace Url

/-- Who is asked for a resource. -/
structure Authority where
  /-- A user's name and password. -/
  userinfo : List Char := []
  host : Host
  /-- The port, if it is not the scheme's own. -/
  port : Option Nat := none
  deriving DecidableEq, Repr

/-- The written form of an authority. -/
def Authority.text (a : Authority) : List Char :=
  (if a.userinfo = [] then [] else a.userinfo ++ ['@']) ++ a.host.text
    ++ a.port.elim [] fun port => ':' :: (toString port).toList

/-- The schemes that have a port of their own. -/
def portSchemes : List (String × Nat) :=
  [("ftp", 21), ("http", 80), ("https", 443), ("ws", 80), ("wss", 443)]

/-- The scheme of files. -/
def fileScheme : String := "file"

/-- The scheme is one of those with rules of their own. -/
def isSpecial (scheme : String) : Bool :=
  scheme == fileScheme || (portSchemes.lookup scheme).isSome

/-- How paths are read and written under a scheme. -/
def pathStyle (scheme : String) : Path.Style where
  backslashSeparates := isSpecial scheme
  hasDrives := scheme == fileScheme

end Url

/-- A URL whose path is a sequence of segments. -/
structure Url where
  scheme : String
  authority : Option Url.Authority
  /-- A slash and a point are written before the path, for otherwise it would have been taken for an
  authority. -/
  isSetOff : Bool := false
  path : Url.Path
  query : Option (List Char) := none
  fragment : Option (List Char) := none
  deriving DecidableEq, Repr

namespace Url

/-- The path and the query. -/
def target (u : Url) : List Char :=
  u.path.text ++ u.query.elim [] ('?' :: ·)

/-- The written form of a URL. -/
def text (u : Url) : List Char :=
  u.scheme.toList ++ [':'] ++ u.authority.elim [] (fun a => '/' :: '/' :: a.text)
    ++ (if u.isSetOff then ['/', '.'] else []) ++ u.target ++ u.fragment.elim [] ('#' :: ·)

/-- The URL one segment further on. -/
def child (u : Url) (segment : List Char) : Url :=
  { u with path := u.path.child (pathStyle u.scheme) segment }

@[simp] theorem scheme_child (u : Url) (segment : List Char) :
    (u.child segment).scheme = u.scheme := rfl

@[simp] theorem authority_child (u : Url) (segment : List Char) :
    (u.child segment).authority = u.authority := rfl

@[simp] theorem query_child (u : Url) (segment : List Char) :
    (u.child segment).query = u.query := rfl

@[simp] theorem fragment_child (u : Url) (segment : List Char) :
    (u.child segment).fragment = u.fragment := rfl

end Url

end Courier
