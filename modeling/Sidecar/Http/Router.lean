import Sidecar.Http.Request
import Sidecar.Metrics.Exposition
import Sidecar.Readiness.Gate
/-! The telemetry endpoints.

* `/` answers the service identity as JSON.
* `/_hc` answers 200 `ok` when readiness evaluates to ready, 503 `not enabled` before the gate
  is enabled, and 503 `unhealthy` when a check fails or panics.
* `/metrics` answers the exposition, or 500 when it cannot be made.
* `/debug/pprof/` lists the profiles, `/debug/pprof/cmdline` answers the command line, and any
  other single path segment under `/debug/pprof/` is an unknown profile.

Paths match exactly. A known path answers GET and HEAD (HEAD without a body) and 405 to other
methods; any other path answers 404. Neither 404 nor 405 has a body or a content type. -/
namespace Sidecar.Http

structure Response where
  status : Nat
  contentType : Option String
  body : String

def plainText : String := "text/plain; charset=utf-8"

def Response.text (status : Nat) (body : String) : Response := ⟨status, some plainText, body⟩

/-- The bare 404 answer for a path without a route. -/
def Response.notFound : Response := ⟨404, none, ""⟩

/-- The bare 405 answer for a method a route does not serve. -/
def Response.methodNotAllowed : Response := ⟨405, none, ""⟩

def availableProfiles : List String := ["cmdline"]

def profileIndex : String :=
  "Available profiles:\n" ++ String.join (availableProfiles.map fun p => "  /debug/pprof/" ++ p ++ "\n")

/-- What the endpoints answer from: the service, its gate and metrics, and the command line of
the process. -/
structure Endpoints where
  service : ServiceInfo
  gate : Readiness.Gate
  metrics : Metrics.Registry
  commandLine : List String := []

inductive Route where
  | index
  | health
  | metrics
  | profiles
  | commandLine
  | profile (name : String)

def Route.ofPath? (path : String) : Option Route :=
  match path with
  | "/" => some .index
  | "/_hc" => some .health
  | "/metrics" => some .metrics
  | "/debug/pprof/" => some .profiles
  | "/debug/pprof/cmdline" => some .commandLine
  | _ =>
    match path.toList with
    | '/' :: 'd' :: 'e' :: 'b' :: 'u' :: 'g' :: '/' :: 'p' :: 'p' :: 'r' :: 'o' :: 'f' :: '/' :: rest =>
      if !rest.isEmpty && !rest.contains '/' then some (.profile (String.ofList rest)) else none
    | _ => none

/-- The JSON body of the index: service, version and status. -/
def indexBody (s : ServiceInfo) : String :=
  "\x7b\"service\":" ++ Text.jsonQuote s.name ++ ",\"version\":" ++ Text.jsonQuote s.version ++
    ",\"status\":\"running\"\x7d"

def healthResponse : Readiness.Health → Response
  | .ready => .text 200 "ok"
  | .notEnabled => .text 503 "not enabled"
  | .unhealthy .. => .text 503 "unhealthy"
  | .panicked .. => .text 503 "unhealthy"

/-- An answer and the readiness checks that producing it ran. -/
structure Reply where
  response : Response
  ran : List String := []

def Endpoints.serve (e : Endpoints) : Route → Reply
  | .index => ⟨⟨200, some "application/json", indexBody e.service⟩, []⟩
  | .health =>
    let ev := e.gate.evaluate
    ⟨healthResponse ev.result, ev.ran⟩
  | .metrics =>
    match e.metrics.exposition with
    | .ok body => ⟨⟨200, some Metrics.contentType, body⟩, []⟩
    | .error err => ⟨.text 500 ("Failed to encode metrics: " ++ err.message), []⟩
  | .profiles => ⟨.text 200 profileIndex, []⟩
  | .commandLine => ⟨.text 200 ("\x00".intercalate e.commandLine), []⟩
  | .profile raw =>
    match percentDecode? raw with
    | some name => ⟨.text 404 ("Unknown profile: " ++ name), []⟩
    | none => ⟨.text 400 "Invalid URL: Invalid UTF-8 in `profile`", []⟩

def Endpoints.handle (e : Endpoints) (m : Method) (path : String) : Reply :=
  match Route.ofPath? path with
  | none => ⟨.notFound, []⟩
  | some r =>
    match m with
    | .get => e.serve r
    | .head =>
      let reply := e.serve r
      { reply with response := { reply.response with body := "" } }
    | _ => ⟨.methodNotAllowed, []⟩

end Sidecar.Http
