import MysqlMetrics.Environment
import MysqlMetrics.Text.Split
/-!
# Paths of files

Paths are texts with `/` between components. A path that starts with `~/` is taken from the home
directory of the user.
-/
namespace MysqlMetrics.Path

/-- The path `rest` as seen from the directory `base`: an absolute path stands for itself. -/
def join (base rest : String) : String :=
  if rest.startsWith "/" then rest
  else if base.isEmpty || base.endsWith "/" then base ++ rest
  else base ++ "/" ++ rest

/-- Replaces a leading `~/` by the directory that `HOME` names, if it is set. -/
def expandHome (env : Environment) (path : String) : String :=
  match Text.after? "~/" path, env.get? "HOME" with
  | some rest, some home => join home rest
  | _, _ => path

end MysqlMetrics.Path
