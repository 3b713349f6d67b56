/-!
# The name of the program

What the program calls itself, on its pages and at its start.
-/
namespace MysqlMetrics.Program

def name : String := "mysqld_exporter"

def version : String := "0.1.0"

end MysqlMetrics.Program
