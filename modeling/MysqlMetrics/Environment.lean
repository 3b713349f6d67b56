/-!
# Environment variables

The variables of the process, as pairs of name and value. One whose value is no text is not among
them.
-/
namespace MysqlMetrics

abbrev Environment := List (String × String)

namespace Environment

def get? (env : Environment) (name : String) : Option String :=
  (env.find? (·.1 == name)).map (·.2)

/-- Sets a variable, in place of any earlier value. -/
def set (env : Environment) (name value : String) : Environment :=
  (name, value) :: env.filter (·.1 != name)

def unset (env : Environment) (name : String) : Environment := env.filter (·.1 != name)

end Environment
end MysqlMetrics
