/-!
Log lines, and the window in which a repeated line is held back.
-/

set_option autoImplicit false
set_option relaxedAutoImplicit false

namespace TelemetrySender

inductive Level where
  | error
  | warn
  | info
  | debug
  | trace
  deriving DecidableEq

structure LogLine where
  level : Level
  text : String
  deriving DecidableEq

end TelemetrySender
