import ClusterWatch.Text.Decimal
import ClusterWatch.Text.Segments

/-!
Reading the arguments of the command line.

A command line is `[--config PATH] COMMAND [FLAGS]`, where the path may also follow the command. It
is read from left to right, and the first thing that ends it decides: a mistake, or a question for
help or the version. An option's value is the next argument unless that looks like a flag, or what
follows an equals sign. An option without an equals sign is settled only when the next flag or the
end comes, so a command that follows it is looked at first.
-/

namespace ClusterWatch.CommandLine

/-- Why a command line is not carried out: it asks for a text about the program, or it is wrong. -/
inductive Usage where
  | information
  | mistake
deriving DecidableEq, Repr

/-- What the process answers a command line with that is not carried out. -/
def Usage.exitCode : Usage → Nat
  | information => 0
  | mistake => 2

/-- What a command line asks for. -/
inductive Command where
  | sysctls
  | names (storageOnly : Bool)
  | validate
  | status (fixture : String) (passes : Nat) (networks deviceEnv : Bool)
deriving DecidableEq, Repr

structure Arguments where
  config : Option String
  command : Command
deriving DecidableEq, Repr

/-- What may stand on the command line before, or after, the command. -/
structure Level where
  /-- Options with a value, each by its long name. -/
  options : List String
  /-- Flags, each by its long name and perhaps a letter. -/
  flags : List (String × Option Char)
  /-- Commands, none of which may follow another. -/
  commands : List String := []

def helpFlag : String × Option Char :=
  ("help", some 'h')

def versionFlag : String × Option Char :=
  ("version", some 'V')

def topLevel : Level where
  options := ["config"]
  flags := [helpFlag, versionFlag]
  commands := ["sysctls", "names", "validate", "status", "help"]

def plainLevel : Level where
  options := ["config"]
  flags := [helpFlag]

def namesLevel : Level where
  options := ["config"]
  flags := [helpFlag, ("storage", some 's')]

def statusLevel : Level where
  options := ["config", "fixture", "passes"]
  flags := [helpFlag, ("networks", none), ("device-env", none)]

/-- A number of passes: an integer with an optional sign that fits into 32 bits without one. -/
def passes? (s : String) : Option Nat :=
  let n :=
    match s.toList with
    | '-' :: digits => (Decimal.readDigits? digits).filter (· = 0)
    | digits => Decimal.read? digits
  n.filter (· < Nat.pow 2 32)

def accepts (option value : String) : Bool :=
  if option = "passes" then (passes? value).isSome else true

/-- What has been read so far. -/
structure Progress where
  values : List (String × String) := []
  flags : List String := []
  /-- The option that is not settled yet, with its value once that has come. -/
  pending : Option (String × Option String) := none

namespace Progress

/-- Takes in an option; none may be given twice. -/
def setOption (p : Progress) (option value : String) : Except Usage Progress :=
  if (p.values.lookup option).isSome || !accepts option value then .error .mistake
  else .ok { p with values := (option, value) :: p.values }

/-- Settles the pending option, which has to have a value. -/
def settle (p : Progress) : Except Usage Progress :=
  match p.pending with
  | none => .ok p
  | some (_, none) => .error .mistake
  | some (option, some value) => { p with pending := none }.setOption option value

/-- Takes in a flag; none may be given twice, and two of them end the reading. -/
def setFlag (p : Progress) (flag : String) : Except Usage Progress := do
  let p ← p.settle
  if flag = helpFlag.1 ∨ flag = versionFlag.1 then .error .information
  else if flag ∈ p.flags then .error .mistake
  else .ok { p with flags := flag :: p.flags }

/-- The option waits for the next argument as its value. -/
def awaitsValue (p : Progress) : Bool :=
  match p.pending with
  | some (_, none) => true
  | _ => false

end Progress

/-- Reads an argument with two hyphens, without them. -/
def readLong (level : Level) (p : Progress) (cs : List Char) : Except Usage Progress :=
  match Text.cutFirst '=' cs with
  | some (name, value) =>
    let name := String.ofList name
    if name ∈ level.options then do
      (← p.settle).setOption name (String.ofList value)
    else .error .mistake
  | none =>
    let name := String.ofList cs
    if name ∈ level.options then do
      return { ← p.settle with pending := some (name, none) }
    else if level.flags.any (·.1 = name) then p.setFlag name
    else .error .mistake

def readLetters (level : Level) (p : Progress) : List Char → Except Usage Progress
  | [] => .ok p
  | c :: cs =>
    match level.flags.find? (·.2 = some c) with
    | some flag => do readLetters level (← p.setFlag flag.1) cs
    | none => .error .mistake

/-- Reads the arguments of a level up to a command, which comes with the arguments after it. After
two hyphens alone nothing may follow. -/
def readLevel (level : Level) (p : Progress) :
    List String → Except Usage (Progress × Option (String × List String))
  | [] => .ok (p, none)
  | arg :: args =>
    if !p.awaitsValue && arg ∈ level.commands then .ok (p, some (arg, args))
    else
      match arg.toList with
      | ['-', '-'] => if args.isEmpty then .ok (p, none) else .error .mistake
      | '-' :: '-' :: cs => do readLevel level (← readLong level p cs) args
      | '-' :: c :: cs => do readLevel level (← readLetters level p (c :: cs)) args
      | _ =>
        match p.pending with
        | some (option, none) =>
          readLevel level { p with pending := some (option, some arg) } args
        | _ => .error .mistake

def readRest (level : Level) (args : List String) : Except Usage Progress := do
  (← readLevel level {} args).1.settle

/-- The command with its own arguments, and the declaration's path if it follows the command. -/
def readCommand (name : String) (args : List String) : Except Usage (Command × Option String) :=
  match name with
  | "sysctls" => do
    let p ← readRest plainLevel args
    return (.sysctls, p.values.lookup "config")
  | "validate" => do
    let p ← readRest plainLevel args
    return (.validate, p.values.lookup "config")
  | "names" => do
    let p ← readRest namesLevel args
    return (.names ("storage" ∈ p.flags), p.values.lookup "config")
  | "status" => do
    let p ← readRest statusLevel args
    match p.values.lookup "fixture" with
    | none => .error .mistake
    | some fixture =>
      let passes := ((p.values.lookup "passes").bind passes?).getD 1
      return (.status fixture passes ("networks" ∈ p.flags) ("device-env" ∈ p.flags),
        p.values.lookup "config")
  | _ =>
    match args with
    | [] => .error .information
    | [topic] => .error (if topic ∈ topLevel.commands then .information else .mistake)
    | _ => .error .mistake

def Arguments.parse (args : List String) : Except Usage Arguments := do
  match ← readLevel topLevel {} args with
  | (_, none) => .error .mistake
  | (p, some (name, rest)) =>
    let (command, config) ← readCommand name rest
    let p ← p.settle
    return { config := config.or (p.values.lookup "config"), command }

end ClusterWatch.CommandLine
