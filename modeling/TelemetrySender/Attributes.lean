import TelemetrySender.Keyed

/-!
Attributes: texts under distinct keys, in the order in which the keys first came.  Giving a value
to a key that is already there keeps the key's place and replaces its value.
-/

set_option autoImplicit false
set_option relaxedAutoImplicit false

namespace TelemetrySender

structure Attributes where
  entries : List (String × String)
  keys_nodup : (entries.map Prod.fst).Nodup

namespace Attributes

def empty : Attributes := ⟨[], List.nodup_nil⟩

def insert (a : Attributes) (key value : String) : Attributes :=
  ⟨Keyed.assign key value a.entries, Keyed.nodup_keys_assign key value a.keys_nodup⟩

/-- Inserts pairs one by one: a repeated key keeps its first place and takes its last value. -/
def ofList (pairs : List (String × String)) : Attributes :=
  pairs.foldl (fun a p => a.insert p.1 p.2) empty

end Attributes

end TelemetrySender
