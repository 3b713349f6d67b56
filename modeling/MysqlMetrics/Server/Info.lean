import MysqlMetrics.Server.Version
/-!
# What a server says of itself

A server is MariaDB if its announcement names it. MariaDB may put `5.5.5-` in front of its version
for clients that expect a small number there.
-/
namespace MysqlMetrics

inductive Flavor where
  | mySql
  | mariaDb
deriving DecidableEq, Repr

def Flavor.word : Flavor → String
  | .mySql => "mysql"
  | .mariaDb => "mariadb"

structure ServerInfo where
  flavor : Flavor
  version : Version
  announcement : String
deriving DecidableEq, Repr

namespace ServerInfo

def flavorOf (announcement : String) : Flavor :=
  if Text.contains (Text.asciiLower announcement) "mariadb" then .mariaDb else .mySql

def parse (s : String) : ServerInfo :=
  let text := Text.trim s
  match flavorOf text with
  | .mySql => ⟨.mySql, Version.parse text, text⟩
  | .mariaDb => ⟨.mariaDb, Version.parse ((Text.after? "5.5.5-" text).getD text), text⟩

def atLeast (s : ServerInfo) (least : Version) : Bool := s.version.atLeast least

end ServerInfo
end MysqlMetrics
