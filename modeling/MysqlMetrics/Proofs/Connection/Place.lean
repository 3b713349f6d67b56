import MysqlMetrics.Proofs.Connection.OptionFile
import MysqlMetrics.Startup.Connections
/-!
# Where the default connection leads

An option file may name a server by a socket or by a host, and the environment fills what the file
leaves open, field by field. A file that sets a socket is obeyed whatever the environment has. One
that sets a host is obeyed only where the environment has no socket: as a socket wins over a host,
the one of the environment wins over the host of the file (`Startup.defaultConnection_leadsTo_iff`).
-/
namespace MysqlMetrics

/-- The options lead to the server that an option file names: by its socket if it sets one, else to
its host, and there to its port if it sets one. -/
structure ConnectOptions.LeadsTo (o : ConnectOptions) (content : String) : Prop where
  socket : o.socket = ClientConfig.assigned content "socket"
  host : o.socket = none → ClientConfig.assigned content "host" = some o.host
  port : o.socket = none → ∀ value, ClientConfig.assigned content "port" = some value →
    Decimal.readU16 value = .ok o.port

namespace ClientConfig

variable {content path name : String} {c : ClientConfig} {env : Environment}

theorem socket_connectOptions (c : ClientConfig) : c.connectOptions.socket = c.socket := by
  unfold connectOptions
  cases c.socket <;> rfl

theorem host_connectOptions (h : c.socket = none) :
    c.connectOptions.host = c.host.getD "localhost" := by
  unfold connectOptions
  rw [h]

theorem port_connectOptions (h : c.socket = none) : c.connectOptions.port = c.port.getD 3306 := by
  unfold connectOptions
  rw [h]

theorem isUsable_withEnvironment (h : parse content = .ok c) (env : Environment) :
    (c.withEnvironment env).isUsable = true ↔
      Sets content "user" ∨ (env.get? "MYSQL_USER").isSome = true := by
  rw [← isSome_assigned, ← follows_user.eq_assigned h]
  simp [isUsable, withEnvironment, Option.isSome_or]

/-- The environment has a say in the socket only if the file has none. -/
theorem socket_withEnvironment (c : ClientConfig) (env : Environment) :
    (c.withEnvironment env).connectOptions.socket = c.socket.or (env.get? "MYSQL_UNIX_PORT") :=
  socket_connectOptions _

theorem leadsTo_of_socket (h : parse content = .ok c) (hsocket : c.socket = some path) :
    (c.withEnvironment env).connectOptions.LeadsTo content := by
  have hplace : (c.withEnvironment env).connectOptions.socket = some path := by
    rw [socket_withEnvironment, hsocket]
    rfl
  refine ⟨?_, fun hn => ?_, fun hn => ?_⟩
  · rw [hplace, ← follows_socket.eq_assigned h, hsocket]
  · rw [hplace] at hn
    cases hn
  · rw [hplace] at hn
    cases hn

theorem leadsTo_of_host (h : parse content = .ok c) (hsocket : c.socket = none)
    (hhost : c.host = some name) (henv : env.get? "MYSQL_UNIX_PORT" = none) :
    (c.withEnvironment env).connectOptions.LeadsTo content := by
  have hnone : (c.withEnvironment env).socket = none := by
    rw [← socket_connectOptions, socket_withEnvironment, hsocket, henv]
    rfl
  refine ⟨?_, fun _ => ?_, fun _ value hvalue => ?_⟩
  · rw [socket_connectOptions, hnone, ← follows_socket.eq_assigned h, hsocket]
  · rw [host_connectOptions hnone, ← follows_host.eq_assigned h]
    simp [withEnvironment, hhost]
  · obtain ⟨n, hport, hread⟩ := port_eq_of_assigned h hvalue
    rw [port_connectOptions hnone, hread]
    simp [withEnvironment, hport]

/-- The file is obeyed if it sets a socket, or if the environment has none. -/
theorem leadsTo_iff (h : parse content = .ok c)
    (hnamed : Sets content "host" ∨ Sets content "socket") (env : Environment) :
    (c.withEnvironment env).connectOptions.LeadsTo content ↔
      Sets content "socket" ∨ env.get? "MYSQL_UNIX_PORT" = none := by
  rw [← isSome_assigned, ← isSome_assigned, ← follows_socket.eq_assigned h,
    ← follows_host.eq_assigned h] at hnamed
  rw [← isSome_assigned, ← follows_socket.eq_assigned h]
  cases hsocket : c.socket with
  | some path => exact iff_of_true (leadsTo_of_socket h hsocket) (.inl rfl)
  | none =>
    rw [hsocket] at hnamed
    obtain ⟨name, hhost⟩ := Option.isSome_iff_exists.1 (hnamed.resolve_right Bool.false_ne_true)
    constructor
    · intro hleads
      have hsame := hleads.socket
      rw [socket_withEnvironment, ← follows_socket.eq_assigned h, hsocket] at hsame
      exact .inr hsame
    · intro hcase
      exact leadsTo_of_host h hsocket hhost (hcase.resolve_left Bool.false_ne_true)

end ClientConfig

namespace Startup

section

variable {env : Environment} {files : Files} {options : Options} {content : String}
  {o : ConnectOptions}

theorem defaultConnection_eq_some
    (hfile : files.regular? (Path.expandHome env options.myCnf) = some content) :
    defaultConnection env files options none = .ok (some o) ↔
      ∃ c, ClientConfig.parse content = .ok c ∧ (c.withEnvironment env).isUsable = true ∧
        (c.withEnvironment env).connectOptions = o := by
  have hload : loadOptionFile files (Path.expandHome env options.myCnf) =
      (ClientConfig.parse content).mapError (.optionFile (Path.expandHome env options.myCnf)) := by
    unfold loadOptionFile
    rw [hfile]
  unfold defaultConnection
  rw [hload]
  cases ClientConfig.parse content with
  | error e =>
    constructor
    · intro h
      cases h
    · rintro ⟨c, hc, -⟩
      cases hc
  | ok c =>
    change Except.ok (if (c.withEnvironment env).isUsable then
      some (c.withEnvironment env).connectOptions else none) = .ok (some o) ↔ _
    simp

/-- **Where the default connection leads.** If an option file names a server, options are made
exactly if its port is a number and there is a user in the file or in the environment. They lead to
the server that the file names if the file sets a socket, or if the environment sets none;
otherwise they lead to the socket of the environment. -/
theorem defaultConnection_leadsTo_iff
    (hfile : files.regular? (Path.expandHome env options.myCnf) = some content)
    (hnamed : ClientConfig.Sets content "host" ∨ ClientConfig.Sets content "socket") :
    ((∃ o, defaultConnection env files options none = .ok (some o)) ↔
      (∃ c, ClientConfig.parse content = .ok c) ∧
        (ClientConfig.Sets content "user" ∨ (env.get? "MYSQL_USER").isSome = true)) ∧
    ∀ o, defaultConnection env files options none = .ok (some o) →
      (o.LeadsTo content ↔
        ClientConfig.Sets content "socket" ∨ env.get? "MYSQL_UNIX_PORT" = none) ∧
      (¬ ClientConfig.Sets content "socket" → o.socket = env.get? "MYSQL_UNIX_PORT") := by
  constructor
  · simp only [defaultConnection_eq_some hfile]
    constructor
    · rintro ⟨o, c, hc, husable, -⟩
      exact ⟨⟨c, hc⟩, (ClientConfig.isUsable_withEnvironment hc env).1 husable⟩
    · rintro ⟨⟨c, hc⟩, huser⟩
      exact ⟨_, c, hc, (ClientConfig.isUsable_withEnvironment hc env).2 huser, rfl⟩
  · intro o ho
    obtain ⟨c, hc, -, rfl⟩ := (defaultConnection_eq_some hfile).1 ho
    refine ⟨ClientConfig.leadsTo_iff hc hnamed env, fun hsets => ?_⟩
    rw [← ClientConfig.isSome_assigned, ← ClientConfig.follows_socket.eq_assigned hc,
      Option.not_isSome_iff_eq_none] at hsets
    rw [ClientConfig.socket_withEnvironment, hsets]
    rfl

end

namespace Elsewhere

def file : String := "[client]\nuser=u\nhost=db\n"

def files : Files := { entries := [(["my.cnf"], .file file)] }

def options : Options := { myCnf := "/my.cnf" }

def env : Environment := [("MYSQL_UNIX_PORT", "/run/mysqld.sock")]

end Elsewhere

open Elsewhere in
/-- A file names a host, and the connection leads to the socket of the environment. -/
theorem defaultConnection_elsewhere :
    files.regular? (Path.expandHome env options.myCnf) = some file ∧
    ClientConfig.Sets file "host" ∧
    ∃ o, defaultConnection env files options none = .ok (some o) ∧ ¬ o.LeadsTo file ∧
      o.socket = some "/run/mysqld.sock" := by
  have hfile : files.regular? (Path.expandHome env options.myCnf) = some file := by decide +kernel
  have hparse : ClientConfig.parse file = .ok { user := some "u", host := some "db" } := rfl
  have hhost : ClientConfig.Sets file "host" := by
    unfold ClientConfig.Sets
    decide
  have huser : ClientConfig.Sets file "user" := by
    unfold ClientConfig.Sets
    decide
  have hsocket : ¬ ClientConfig.Sets file "socket" := by
    unfold ClientConfig.Sets
    decide
  obtain ⟨hmade, hleads⟩ := defaultConnection_leadsTo_iff hfile (.inl hhost)
  obtain ⟨o, ho⟩ := hmade.2 ⟨⟨_, hparse⟩, .inl huser⟩
  obtain ⟨hiff, helse⟩ := hleads o ho
  exact ⟨hfile, hhost, o, ho, mt hiff.1 (not_or.2 ⟨hsocket, by decide⟩), helse hsocket⟩

end Startup
end MysqlMetrics
