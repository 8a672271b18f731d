import ShapeForge.Cli.Inspect
import ShapeForge.Server.Basic

/-!
# Serving a service

The command that starts the mock server of a service.
-/

namespace ShapeForge.Cli

def patternFault (problem : Server.PatternFault) : Fault :=
  .plain ("mockserver: " ++ problem.message)

def makeServer (desk : Desk) (service path : String) : Job Server.Server := do
  let id ← if service.isEmpty then pure ShapeId.empty
    else Job.check ((ShapeId.parse service).mapError fun problem =>
      .hinted "service ids look like namespace#Name" (.malformedId problem service))
  let loaded ← loadModel desk path
  Job.log desk (Server.buildNotes loaded.model id)
  let server ← match Server.build loaded.model id desk.config.seed desk.config.listSize.toNat with
    | .ok server => pure server
    | .error (.fault fault) => throw fault
    | .error (.pattern problem) => throw (patternFault problem)
  Job.log desk (server.routes.map fun route =>
    { level := .debug, message := "route"
      fields := [("method", .string route.method), ("pattern", .string route.pattern),
        ("operation", .string route.shape.id.text)] })
  Job.note desk .info "mock server listening"
    [("addr", .string desk.config.address), ("service", .string server.service.text),
      ("routes", .int server.routes.length)]
  return server

/-- Stop a server, because it is no longer wanted or could not start. -/
def stopServer (desk : Desk) (problem : Option String) : Job Unit := do
  Job.note desk .info "shutting down mock server"
  match problem with
  | some problem => throw (.context "mock server" (.plain problem))
  | none => return

end ShapeForge.Cli
