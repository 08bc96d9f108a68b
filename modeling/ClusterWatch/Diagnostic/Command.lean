/-!
The commands of the diagnostics that run inside a node's pod.

Most go through the node's startup script, which takes one flag that says what to report. The rest
read files that the startup script leaves behind.
-/

namespace ClusterWatch.Diagnostic

/-- Where the startup script writes how far provisioning has come. -/
def stateFilePath : String :=
  "/tmp/orod/.statefile"

/-- Where the node keeps its grid home and its device lists. -/
def envFilePath : String :=
  "/etc/rac_env_vars/envfile"

/-- Drops slashes at the back. -/
def dropFinalSlashes (cs : List Char) : List Char :=
  (cs.reverse.dropWhile (· == '/')).reverse

/-- How to call the startup script: the directory it is mounted at, without slashes at its end, and
the interpreter to run it with. -/
structure Scripts where
  mount : String
  interpreter : String
deriving DecidableEq

namespace Scripts

def mountedAt (mount interpreter : String) : Scripts :=
  ⟨String.ofList (dropFinalSlashes mount.toList), interpreter⟩

/-- The command of the startup script with one flag. -/
def command (s : Scripts) (flag : String) : List String :=
  [s.mount ++ "/cmdExec", s.interpreter, s.mount ++ "/main.py", flag]

def clusterHealth (s : Scripts) : List String :=
  s.command "--checkgilocal=true"

def instanceState (s : Scripts) : List String :=
  s.command "--checkracinst=true"

def dbState (s : Scripts) : List String :=
  s.command "--checkracdb=true"

def connectString (s : Scripts) : List String :=
  s.command "--checkconnstr=true"

def pdbConnectString (s : Scripts) : List String :=
  s.command "--checkpdbconnstr=true"

def dbRole (s : Scripts) : List String :=
  s.command "--checkdbrole=true"

def dbVersion (s : Scripts) : List String :=
  s.command "--checkdbversion=true"

def diskGroups (s : Scripts) : List String :=
  s.command "--getasmdiskgroup=true"

def disks (s : Scripts) (group : String) : List String :=
  s.command ("--getasmdisks=" ++ group)

def redundancy (s : Scripts) (group : String) : List String :=
  s.command ("--getdgredundancy=" ++ group)

def serviceState (s : Scripts) (service database : String) : List String :=
  s.command ("--checkdbsvc=\"service=" ++ service ++ ";dbname=" ++ database ++ "\"")

end Scripts

def stateFile : List String :=
  ["/bin/bash", "-c", "cat " ++ stateFilePath]

def gridHome : List String :=
  ["sh", "-c", "grep '^GRID_HOME=' " ++ envFilePath ++ " | cut -d'=' -f2"]

/-- Prints the lines of the environment file that hold a name. -/
def environmentLines (name : String) : List String :=
  ["bash", "-c", "cat " ++ envFilePath ++ " | grep " ++ name]

/-- The names of the device lists in the environment file. -/
def crsDevicesName : String := "CRS_ASM_DEVICE_LIST"
def dbDevicesName : String := "DB_ASM_DEVICE_LIST"

def crsDeviceList : List String :=
  environmentLines crsDevicesName

def dbDeviceList : List String :=
  environmentLines dbDevicesName

end ClusterWatch.Diagnostic
