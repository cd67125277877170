import CallScript.Job
import CallScript.Target

/-!
# Toolchains

A toolchain is the program that makes an executable of a generated file. It is told where to put the
executable and, for Rust, what to call it.
-/

namespace CallScript

structure Toolchain where
  target : Target
  program : String
deriving DecidableEq

/-- A name for the executable at a path: the stem of the file name with an underscore in place of
every other character, and with a beginning that is no digit. -/
def crateName (output : String) : String :=
  let name := ((Path.stem? output).getD "").toList.map fun c => if c.isAlphanum then c else '_'
  match name with
  | first :: _ =>
      if first.isAlpha || first == '_' then String.ofList name else "mob_" ++ String.ofList name
  | [] => "mob_"

namespace Toolchain

def origin : String := "mob_core::toolchain"

/-- The toolchain of a target: the program asked for, else the target's own. -/
def choose (host : Host) (target : Target) : Option String → Toolchain
  | some program => ⟨target, program⟩
  | none =>
      match target with
      | .rust => ⟨.rust, host.rustCompiler?.getD "rustc"⟩
      | .go => ⟨.go, "go"⟩

/-- The paths are octet texts. -/
def buildCommand (toolchain : Toolchain) (source output : String) : Command where
  program := Octets.ofText toolchain.program
  args :=
    match toolchain.target with
    | .rust =>
        let name := crateName (Octets.shown ((Path.fileName? output).getD ""))
        ["--edition", "2021", "--crate-name", name, "-o", output, source]
    | .go => ["build", "-o", output, source]

def probeCommand (toolchain : Toolchain) : Command where
  program := Octets.ofText toolchain.program
  args :=
    match toolchain.target with
    | .rust => ["--version"]
    | .go => ["version"]

def isAvailable (host : Host) (toolchain : Toolchain) : Job Bool :=
  Job.probe host toolchain.probeCommand

/-- Builds at paths that are octet texts. -/
def buildAt (host : Host) (toolchain : Toolchain) (source output : String) : Job Unit := do
  let command := toolchain.buildCommand source output
  Job.log .debug origin ("running " ++ command.describe)
  let status ← Job.start host (.toolchainUnavailable toolchain.program) command
  unless status = .success do
    throw (.toolchainFailed toolchain.program status)

def build (host : Host) (toolchain : Toolchain) (source output : String) : Job Unit :=
  toolchain.buildAt host (Octets.ofText source) (Octets.ofText output)

end Toolchain
end CallScript
