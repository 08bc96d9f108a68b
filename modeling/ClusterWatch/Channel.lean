import ClusterWatch.Journal

/-!
Ways to work on a platform.

A computation that asks a platform is written once and can be carried out in two ways. `Live` takes
the platform along: the computation sees the platform as it is by then, and each command that it
runs is a step to the next one. On a platform at hand it is a `Journal`, which holds what was run
beside the result and leaves the platform alone.
-/

namespace ClusterWatch

/-- What a computation on a platform leaves behind. -/
structure Outcome (α : Type) where
  value : α
  platform : Platform
  notices : List Notice := []

/-- A computation that is carried out on a platform, one step after the other. -/
def Live (α : Type) : Type :=
  Platform → Outcome α

namespace Live

variable {α β : Type}

def pure (value : α) : Live α :=
  fun platform => { value, platform }

/-- One computation after another, on the platform that the first leaves behind. -/
def bind (x : Live α) (f : α → Live β) : Live β :=
  fun platform =>
    let first := x platform
    let next := f first.value first.platform
    { next with notices := first.notices ++ next.notices }

instance : Monad Live where
  pure := pure
  bind := bind

instance : Notifies Live where
  notify notice := fun platform => { value := (), platform, notices := [notice] }

end Live

/-- Stands for the platform that a computation is carried out on, whichever that is. -/
structure Current where

/-- How computations of a kind get at a platform that is told by `σ`. -/
class Channel (σ : Type) (m : outParam (Type → Type)) where
  /-- The platform as it is by then. -/
  look : σ → m Platform
  /-- Runs a command in a pod. -/
  exec : σ → String → List String → m (Except ExecError ExecOutput)

instance : Channel Platform Journal where
  look platform := Journal.pure platform
  exec platform pod argv := { value := (platform.exec pod argv).1, execs := [⟨pod, argv⟩] }

instance : Channel Current Live where
  look _ := fun platform => { value := platform, platform }
  exec _ pod argv := fun platform =>
    let (value, platform) := platform.exec pod argv
    { value, platform }

end ClusterWatch
