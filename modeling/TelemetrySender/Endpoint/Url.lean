import TelemetrySender.Endpoint.Host.Basic

/-!
Web addresses, read as leniently as browsers read them: white space around them and tabs and line
feeds within them are ignored, backslashes count as slashes, and any number of slashes may stand in
front of the host.
-/

set_option autoImplicit false
set_option relaxedAutoImplicit false

namespace TelemetrySender.Endpoint

/-- An address by its parts; what follows the host and port is kept as it was given. -/
structure Url where
  scheme : List Char
  host : List Char
  port : Option Nat
  rest : List Char

namespace Url

def isOuter (c : Char) : Bool := c.toNat ≤ 0x20

def strip (s : List Char) : List Char :=
  let inner := ((s.dropWhile isOuter).reverse.dropWhile isOuter).reverse
  inner.filter fun c => c ≠ '\t' ∧ c ≠ '\n' ∧ c ≠ '\r'

def isSchemeChar (c : Char) : Bool := c.isAlphanum || c = '+' || c = '-' || c = '.'

def scheme? (s : List Char) : Option (List Char × List Char) :=
  let scheme := s.takeWhile isSchemeChar
  match scheme, s.dropWhile isSchemeChar with
  | c :: _, ':' :: rest => if c.isAlpha then some (scheme.map Char.toLower, rest) else none
  | _, _ => none

def isSlash (c : Char) : Bool := c = '/' || c = '\\'

def isAuthorityEnd (c : Char) : Bool := isSlash c || c = '?' || c = '#'

def afterUser (authority : List Char) : List Char :=
  (authority.reverse.takeWhile (· ≠ '@')).reverse

/-- Splits at the first colon that is not between brackets; gives the text behind it. -/
def splitPort : Bool → List Char → List Char × Option (List Char)
  | _, [] => ([], none)
  | false, ':' :: rest => ([], some rest)
  | inside, c :: rest =>
    let split := splitPort (if c = '[' then true else if c = ']' then false else inside) rest
    (c :: split.1, split.2)

def port? (s : List Char) : Option (Option Nat) :=
  if s.isEmpty then some none
  else if s.all Char.isDigit then
    match Text.Hex.number? 10 s 0 with
    | some n => if n < Nat.pow 2 16 then some (some n) else none
    | none => none
  else none

/-- Reads an address with a host; the slashes in front of that do not matter. -/
def parse? (s : List Char) : Option Url :=
  match scheme? (strip s) with
  | none => none
  | some (scheme, rest) =>
    let rest := rest.dropWhile isSlash
    let authority := rest.takeWhile fun c => !isAuthorityEnd c
    let split := splitPort false (afterUser authority)
    if Host.isHost split.1 then
      match port? (split.2.getD []) with
      | some port => some ⟨scheme, split.1, port, rest.dropWhile fun c => !isAuthorityEnd c⟩
      | none => none
    else none

def isHttp (s : List Char) : Bool :=
  match parse? s with
  | some url => url.scheme = "http".toList || url.scheme = "https".toList
  | none => false

end Url

end TelemetrySender.Endpoint
