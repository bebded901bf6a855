import OutboxReplicator.Json.Reader
import OutboxReplicator.Json.Writer
/-!
# Values through their text

A value written as text and read back is `reread` of it.  Nulls, booleans, integers,
strings, arrays and objects come back as they were.  A float comes back as the reader
rounds its shortest text, twice (`WordDecimal`), which may be one unit off.  A store
that keeps JSON as text, and a client that reads a JSON body, see `reread` of the
value.
-/

namespace OutboxReplicator

namespace Json

/-- The value that the text of `j` reads back as.  The writer's text always reads, so
the fallback to `j` is never taken. -/
def reread (j : Json) : Json :=
  match read (render j) with
  | .ok v => v
  | .error _ => j

end Json

end OutboxReplicator
