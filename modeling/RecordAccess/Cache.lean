import RecordAccess.Json.Basic
import RecordAccess.OrderedMap
/-!
# Caches

The external store that keeps the table list and the schemas as JSON values. One kind remembers what
it is given for as long as it lives, the other nothing. Values are kept in canonical form.
-/

namespace RecordAccess

/-- A store of JSON values. -/
inductive Cache where
  | memory (entries : OrderedMap Json)
  | forgetful

namespace Cache

/-- A store that remembers, still empty. -/
def emptyMemory : Cache := memory .empty

/-- The value kept for a key. -/
def get? (key : String) : Cache → Option Json
  | memory entries => entries.get? key
  | forgetful => none

/-- The store after a value is kept for a key. -/
def set (key : String) (value : Json) : Cache → Cache
  | memory entries => memory (entries.insert key value.canonical)
  | forgetful => forgetful

/-- The store after a key is removed. -/
def remove (key : String) : Cache → Cache
  | memory entries => memory (entries.erase key)
  | forgetful => forgetful

/-- The number of keys with a value. -/
def size : Cache → Nat
  | memory entries => entries.size
  | forgetful => 0

end Cache
end RecordAccess
