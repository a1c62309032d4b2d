import TelemetrySender.Endpoint.Report
import TelemetrySender.Endpoint.Url
import TelemetrySender.Transport.Basic

/-!
Direct delivery to a server, one request for each payload.  The request carries the format in its
address and a token, if there is one, in its authorization; a token that no header may hold, or an
address that cannot be read, fails the delivery before any request is made.
-/

set_option autoImplicit false
set_option relaxedAutoImplicit false

namespace TelemetrySender

structure Request where
  url : String
  authorization : Option String
  contentType : String
  body : String
  deriving DecidableEq

namespace Request

def isHeaderText (s : String) : Bool :=
  s.toList.all fun c => c = '\t' || (0x20 ≤ c.toNat && c.toNat ≠ 0x7F)

/-- The request for a payload, or none if the token cannot be sent or the address is none. -/
def of? (server : String) (token : Option String) (k : Kind) (payload : String) :
    Option Request :=
  let url := Endpoint.reportUrl server k.format
  let authorization := token.map ("Bearer " ++ ·)
  if authorization.all isHeaderText && (Endpoint.Url.parse? url.toList).isSome then
    some ⟨url, authorization, "application/octet-stream", payload⟩
  else none

end Request

/-- How a server answers requests; `ν` is what it keeps between them. -/
abbrev Exchange (ν : Type) := Request → ν → Outcome × ν

def Request.fault (text : String) : Fault := ⟨"Other", text⟩

def Transport.direct {ν : Type} (exchange : Exchange ν) (server : String)
    (token : Option String) : Transport ν :=
  ⟨"direct", fun k payload n =>
    match Request.of? server token k payload with
    | some r => exchange r n
    | none => (.error (Request.fault "builder error"), n),
    fun n => (.ok (), n)⟩

end TelemetrySender
