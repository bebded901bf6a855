import OutboxReplicator.Http.Query
import OutboxReplicator.Http.Target
import OutboxReplicator.Outbox.Table
import OutboxReplicator.Processor.Options
/-!
# The HTTP interface

Four GET routes, matched exactly on the path:

* `/healthz`: 200, always;
* `/readyz`: 200 when both databases answer, which stores in memory always do;
* `/outbox/stats`: the counts by status;
* `/outbox/failed`: failed records, latest failure first, at most `limit` of them,
  50 when no limit is given, and the limit held between 1 and `maxFailedListing`.

Routes see the path of the target; a query without a `?` is empty.  Any other path is
404.  A failure answers with its HTTP status and body; a query string
that does not read answers 400 with the reason.
-/

namespace OutboxReplicator

/-- The body of a response. -/
inductive HttpBody where
  /-- A JSON document. -/
  | json (j : Json)
  /-- A JSON array of outbox records. -/
  | records (rs : List OutboxRecord)
  /-- Plain text. -/
  | text (s : String)
  deriving Repr

/-- A response: status and body. -/
structure HttpResponse where
  /-- The status code. -/
  status : Nat
  /-- The body. -/
  body : HttpBody
  deriving Repr

namespace HttpResponse

/-- The default number of failed records listed. -/
def defaultFailedListing : Nat := 50

/-- The status of the liveness probe: the process answers, so it is OK. -/
def liveness : Nat := 200

/-- The status of the readiness probe: OK when both stores answer, else unavailable. -/
def readiness (ready : Bool) : Nat := if ready then 200 else 503

/-- The response to a GET of a target, for an outbox under options.  The limit of the
failed listing is at most `maxFailedListing`, which a query parameter holds. -/
def get (opts : OutboxOptions) (outbox : Outbox) (target : RequestTarget) : HttpResponse :=
  let path := target.path
  let query := target.query.getD ""
  if path == "/healthz" then ⟨liveness, .text ""⟩
  else if path == "/readyz" then ⟨readiness true, .text ""⟩
  else if path == "/outbox/stats" then ⟨200, .json (outbox.stats opts.maxRetryCount).toJson⟩
  else if path == "/outbox/failed" then
    match Query.limit query with
    | .error m => ⟨400, .text ("Failed to deserialize query string: " ++ m)⟩
    | .ok limit =>
      let n := min (max (limit.getD defaultFailedListing) 1) maxFailedListing
      match outbox.failedRecords n with
      | .ok rs => ⟨200, .records rs⟩
      | .error f => ⟨f.httpStatus, .json f.body⟩
  else ⟨404, .text ""⟩

end HttpResponse

end OutboxReplicator
