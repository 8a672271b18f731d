import ShapeForge.Config.Basic

/-!
# Descriptions of settings

A configuration described as JSON.
-/

namespace ShapeForge.Report

/-- A configuration, with how many options of generation follow from it. -/
def config (config : Config) : Json :=
  .object [("output", .string config.output), ("module_path", .string config.modulePath),
    ("packages", .array (config.packages.map fun (space, path) => .strings [space, path])),
    ("policy", .string config.policy), ("concurrency", .int config.concurrency),
    ("namespaces", .strings config.namespaces), ("strict", .bool config.strict),
    ("mock", .object [("seed", .string (toString config.seed)),
      ("list_size", .int config.listSize)]),
    ("registry", .object [("root", .string config.registryRoot),
      ("name", .string config.registryName)]),
    ("build", .string config.buildCommand), ("addr", .string config.address),
    ("log", .object [("level", .string config.logLevel), ("json", .bool config.logJson)]),
    ("option_count", .nat config.generateOptions.length)]

end ShapeForge.Report
