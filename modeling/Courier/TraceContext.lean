import Courier.Keyed
import Courier.Text.LowerCase

/-! Trace context in the headers of a message. -/
namespace Courier

abbrev Headers := Keyed String

namespace TraceContext

/-- The headers that carry these pairs, under keys in lower case; of two pairs with one key the
later counts. -/
def inject (pairs : List (String × String)) : Headers :=
  pairs.foldl (fun headers (key, value) => headers.put (Text.lower key) value) []

/-- What a consumer finds under `key`. -/
def extract (headers : Headers) (key : String) : Option String := headers.get? key

def keys (headers : Headers) : List String := headers.map Prod.fst

end TraceContext
end Courier
