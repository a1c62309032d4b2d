import TelemetrySender.Endpoint.Url
import TelemetrySender.Text.Hex

/-!
The target of a request: the path and query of an address as they go over the wire.  Dot segments
are resolved, characters that neither may hold are percent-encoded, and a fragment is left out.
-/

set_option autoImplicit false
set_option relaxedAutoImplicit false

namespace TelemetrySender.Endpoint.Url

def percentEncode (c : Char) : List Char :=
  (String.singleton c).toUTF8.toList.flatMap fun b =>
    '%' :: (Text.Hex.digits b.toNat 2).map Char.toUpper

def encodeIn (set : List Char) (s : List Char) : List Char :=
  s.flatMap fun c =>
    if c.toNat ≤ 0x20 || 0x7F ≤ c.toNat || set.contains c then percentEncode c else [c]

def pathSet : List Char := ['"', '#', '<', '>', '?', '\x60', '\x7b', '\x7d']

def querySet : List Char := ['"', '#', '<', '>', '\x27']

def isDot (segment : List Char) : Bool :=
  [".", "%2e"].contains (String.ofList (segment.map Char.toLower))

def isDoubleDot (segment : List Char) : Bool :=
  ["..", ".%2e", "%2e.", "%2e%2e"].contains (String.ofList (segment.map Char.toLower))

/-- Resolves dot segments; `done` are the segments so far, the latest first. -/
def resolveDots (done : List (List Char)) : List (List Char) → List (List Char)
  | [] => done.reverse
  | segment :: rest =>
    let last := rest.isEmpty
    if isDoubleDot segment then
      resolveDots (if last then [] :: done.drop 1 else done.drop 1) rest
    else if isDot segment then resolveDots (if last then [] :: done else done) rest
    else resolveDots (segment :: done) rest

def path (u : Url) : List Char :=
  let given := u.rest.takeWhile fun c => c ≠ '?' ∧ c ≠ '#'
  let segments := (given.drop 1).splitOnP isSlash
  (resolveDots [] (segments.map (encodeIn pathSet))).flatMap ('/' :: ·)

def query? (u : Url) : Option (List Char) :=
  match u.rest.dropWhile fun c => c ≠ '?' ∧ c ≠ '#' with
  | '?' :: rest => some (encodeIn querySet (rest.takeWhile (· ≠ '#')))
  | _ => none

def target (u : Url) : List Char :=
  u.path ++ match u.query? with
    | some q => '?' :: q
    | none => []

end TelemetrySender.Endpoint.Url
