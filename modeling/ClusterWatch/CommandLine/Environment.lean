import ClusterWatch.Diagnostic.Command

/-!
What a command takes from the environment when it is not given: the declaration to read, and how
to call the startup script.
-/

namespace ClusterWatch

abbrev Environment := String → Option String

namespace Environment

def configPath (env : Environment) : String :=
  (env "RACTOPO_CONFIG").getD "/etc/ractopo/cluster.toml"

/-- The directory on a node that holds the startup script. -/
def scriptMount (env : Environment) : String :=
  (env "RACTOPO_SCRIPT_MOUNT").getD "/opt/scripts/startup/scripts"

def interpreter (env : Environment) : String :=
  (env "RACTOPO_PYTHON").getD "/bin/python3"

def scripts (env : Environment) : Diagnostic.Scripts :=
  .mountedAt env.scriptMount env.interpreter

end Environment

end ClusterWatch
