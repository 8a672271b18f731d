import ShapeForge.Tools.Settings

/-!
# Descriptions of the tools' settings

The settings of the tools described as JSON.
-/

namespace ShapeForge.Report

def toolSettings (settings : Tools.Settings) : Json :=
  .object [("cache_enabled", .bool settings.cacheEnabled),
    ("cache_max_size", .nat settings.cacheSize),
    ("cache_file_ttl", .string settings.fileLife.text),
    ("cache_content_ttl", .string settings.contentLife.text),
    ("cache_sweep_interval", .string settings.sweepInterval.text),
    ("list_limit", .nat settings.limits.usual), ("max_limit", .nat settings.limits.greatest),
    ("max_inline_size", .nat settings.inlineLimit),
    ("mock_seed", .string (toString settings.seed)), ("mock_list_size", .nat settings.listSize),
    ("service_policy", .string settings.policy.name), ("strict", .bool settings.strict)]

end ShapeForge.Report
