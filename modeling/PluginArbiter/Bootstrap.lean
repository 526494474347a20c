/-
# Starting up

An engine from what lies at the path of the configuration.

Main statements:
* `bootstrap_absent`: where no file lies the engine has the standard configuration.
-/
import PluginArbiter.Config.File
import PluginArbiter.Engine

namespace PluginArbiter

/-- Why no engine was started. -/
structure BootstrapError where
  path : String
  cause : ConfigError
  deriving DecidableEq, Inhabited

/-- The wording of the error, without its cause. -/
def BootstrapError.message (e : BootstrapError) : String := "加载配置失败: " ++ e.path

namespace Engine

/-- Starts an engine from the file at a path. -/
def bootstrap (path : String) (file : ConfigFile) : Except BootstrapError Engine :=
  match file.loadOrDefault with
  | .error cause => .error { path, cause }
  | .ok c =>
    match ofConfig c with
    | .ok e => .ok e
    | .error defect => .error { path, cause := .unsound defect }

/-- Where no file lies the engine has the standard configuration. -/
theorem bootstrap_absent (path : String) :
    (bootstrap path .absent).toOption = (ofConfig {}).toOption := by
  simp only [bootstrap, ConfigFile.loadOrDefault_absent]
  cases ofConfig {} <;> rfl

end Engine

end PluginArbiter
