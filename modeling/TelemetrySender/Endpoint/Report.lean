import TelemetrySender.Kind

/-!
The address that a server takes reports at.  Slashes at the end of the server text and one path
segment `report` there are ignored, so that a server may be given with or without it.
-/

set_option autoImplicit false
set_option relaxedAutoImplicit false

namespace TelemetrySender.Endpoint

def trimSlashes (s : List Char) : List Char :=
  (s.reverse.dropWhile (· == '/')).reverse

def reportSuffix : List Char := "/report".toList

/-- Removes one `/report` from the end, and the slashes in front of it. -/
def stripReport (s : List Char) : List Char :=
  if reportSuffix.isSuffixOf s then trimSlashes (s.take (s.length - reportSuffix.length)) else s

def base (server : List Char) : List Char :=
  stripReport (trimSlashes server)

def reportUrl (server : String) (format : String) : String :=
  String.ofList (base server.toList ++ "/report?f=".toList ++ format.toList)

end TelemetrySender.Endpoint
