import Courier.Text.Digits
import Courier.Url.Parser

/-!
# Addresses of record servers

The address of a record server is a URL: of a server on some host, with the number of a database as
its path, or of a socket on this machine.

## Main definitions

* `Store.isAddress`.
-/

namespace Courier.Store

/-- The schemes of servers on a host. -/
def hostSchemes : List String := ["redis", "rediss", "valkey", "valkeys"]

/-- The schemes of sockets on this machine. -/
def socketSchemes : List String := ["unix", "redis+unix", "valkey+unix"]

/-- The number of a database, which may have a sign and must fit into 64 bits. -/
def isDatabase (cs : List Char) : Bool :=
  let (negative, digits) := match cs with
    | '-' :: ds => (true, ds)
    | '+' :: ds => (false, ds)
    | ds => (false, ds)
  let n := Text.digitsValue digits
  !digits.isEmpty && digits.all Char.isDigit &&
    decide (if negative then n ≤ UInt64.size / 2 else n < UInt64.size / 2)

/-- A text without slashes at its ends. -/
def trimSlashes (cs : List Char) : List Char :=
  ((cs.dropWhile (· == '/')).reverse.dropWhile (· == '/')).reverse

/-- The URL names a host and, if anything, a database on it. -/
def isHostAddress (u : Url) : Bool :=
  let path := trimSlashes u.path.text
  u.authority.any (fun a => !a.host.isEmpty) && (path.isEmpty || isDatabase path)

/-- The URL names a socket on this machine. -/
def isSocketAddress (u : Url) : Bool :=
  u.authority.all fun a => a.host.isEmpty || a.host == .name "localhost".toList

/-- The text is the address of a record server. -/
def isAddress (text : String) : Bool :=
  match Url.parse text.toList with
  | .error _ => false
  | .ok u =>
    (hostSchemes.contains u.scheme && isHostAddress u)
      || (socketSchemes.contains u.scheme && isSocketAddress u)

example : isAddress "redis://localhost:6379/3" = true := by decide +kernel
example : isAddress "redis:///3" = false := by decide +kernel
example : isAddress "redis://h/x" = false := by decide +kernel
example : isAddress "http://localhost" = false := by decide +kernel

end Courier.Store
