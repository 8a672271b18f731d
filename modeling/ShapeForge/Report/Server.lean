import ShapeForge.Server.Basic

/-!
# Descriptions of the mock server

Routes and responses described as JSON.
-/

namespace ShapeForge.Report

def boundOperation (bound : Server.BoundOperation) : Json :=
  .array [.string bound.shape.id.text, .string bound.method, .string bound.pattern,
    .int bound.code]

def linesOf (words : List String) (text : String) : String :=
  "\n".intercalate ((text.splitOn "\n").filter fun line => words.any fun word => line.startsWith word)

/-- The lines that tell how many requests there were. -/
def countLines (text : String) : String :=
  linesOf ["smithygen_mock_requests_total", "smithygen_mock_request_duration_seconds_count"] text

/-- The fields of a response; of the metrics only the counts are shown. -/
def response (clean : String → String) (path : String) (response : Server.Response) :
    List (String × Json) :=
  [("status", .int response.status), ("content_type", .string response.contentType),
    ("body", .string (if path == Server.metricsPath then countLines response.body
      else clean response.body))]

end ShapeForge.Report
