import ClusterWatch.Platform.Basic
import ClusterWatch.Toml.Reader

/-!
Platforms described by a TOML fixture.

A fixture lists nodes, pods, network attachments, disk-check output and the answers of diagnostics.
They are set up in that order and in the order in which they are listed, so a later entry counts
before an earlier one of the same name.
-/

namespace ClusterWatch

/-- The answer that a fixture gives a diagnostic. -/
structure FixtureExec where
  pod : String
  command : String
  stdout : String
  status : Int

structure Fixture where
  nodes : List String
  pods : List Pod
  /-- Names of network attachments with their configuration. -/
  attachments : List (String × String)
  /-- Names of disk-check pods with their output. -/
  diskChecks : List (String × String)
  execs : List FixtureExec

namespace Fixture

def podFields : List Toml.Field :=
  [⟨"name", .required⟩, ⟨"phase", .required⟩, ⟨"ready", .defaulted⟩, ⟨"devices", .defaulted⟩]

def podOfToml? (toml : Toml) : Option Pod := do
  match ← toml.slots false podFields with
  | [some name, some phase, ready, devices] =>
    return { name := ← name.string?
             phase := PodPhase.ofLabel (← phase.string?)
             ready := ← Toml.default? false Toml.boolean? ready
             devices := ← Toml.default? [] (Toml.list? Toml.string?) devices }
  | _ => none

/-- A record of two texts. -/
def pairOfToml? (first second : String) (toml : Toml) : Option (String × String) := do
  match ← toml.slots false [⟨first, .required⟩, ⟨second, .required⟩] with
  | [some a, some b] => return (← a.string?, ← b.string?)
  | _ => none

def execFields : List Toml.Field :=
  [⟨"pod", .required⟩, ⟨"command", .required⟩, ⟨"stdout", .defaulted⟩, ⟨"status", .defaulted⟩]

def execOfToml? (toml : Toml) : Option FixtureExec := do
  match ← toml.slots false execFields with
  | [some pod, some command, stdout, status] =>
    return { pod := ← pod.string?
             command := ← command.string?
             stdout := ← Toml.default? "" Toml.string? stdout
             status := ← Toml.default? 0 (Toml.integerIn? (-Int.pow 2 31) (Int.pow 2 31)) status }
  | _ => none

def fields : List Toml.Field :=
  [⟨"nodes", .defaulted⟩, ⟨"pods", .defaulted⟩, ⟨"attachments", .defaulted⟩,
   ⟨"disk_checks", .defaulted⟩, ⟨"exec", .defaulted⟩]

def ofToml? (toml : Toml) : Option Fixture := do
  match ← toml.slots false fields with
  | [nodes, pods, attachments, diskChecks, execs] =>
    return { nodes := ← Toml.default? [] (Toml.list? Toml.string?) nodes
             pods := ← Toml.default? [] (Toml.list? podOfToml?) pods
             attachments :=
               ← Toml.default? [] (Toml.list? (pairOfToml? "name" "config")) attachments
             diskChecks := ← Toml.default? [] (Toml.list? (pairOfToml? "pod" "log")) diskChecks
             execs := ← Toml.default? [] (Toml.list? execOfToml?) execs }
  | _ => none

/-- Scripts the answer of a diagnostic; only the status zero prints something. -/
def scriptExec (p : Platform) (e : FixtureExec) : Platform :=
  if e.status = 0 then p.respond e.pod e.command e.stdout else p.fail e.pod e.command e.status

def platform (f : Fixture) : Platform :=
  let p : Platform := f.nodes.foldl Platform.addNode {}
  let p := f.pods.foldl Platform.setPod p
  let p := f.attachments.foldl (fun p (name, config) => p.setAttachment name config) p
  let p := f.diskChecks.foldl (fun p (pod, log) => p.setDiskCheck pod log) p
  f.execs.foldl scriptExec p

end Fixture

def Platform.ofFixture? (contents : String) : Option Platform := do
  return (← Fixture.ofToml? (← Toml.parse? contents)).platform

end ClusterWatch
