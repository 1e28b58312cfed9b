/-
  Redelivery.CommandLine
  ──────────────────────
  **The command that prints the chains of a settings file.**

  The settings are loaded, from the file named by the first `--config` (or
  `-c`) among the arguments and from the surroundings, and their chains are
  reported.  `--create` asks for the topics to be created as well, which
  needs a broker to connect to; there is none here.
-/
import Redelivery.Settings.Loading
import Redelivery.Wiring.Report

namespace Redelivery.CommandLine

/-- How the command ends. -/
inductive Ending where
  | done
  /-- It says why it failed. -/
  | failed (complaint : String)
  | brokeDown
  deriving DecidableEq, Repr, Inhabited

/-- The number with which the command ends. -/
def Ending.exitCode : Ending → UInt32
  | .done => 0
  | .failed _ => 1
  | .brokeDown => 101

/-- What the command prints, and how it ends. -/
structure Outcome where
  lines : List String := []
  ending : Ending := .done
  deriving DecidableEq, Repr, Inhabited

/-- The command failed because of a fault. -/
def Outcome.failed (lines : List String) (fault : ConfigurationFault) : Outcome :=
  ⟨lines, .failed (Error.configuration fault).message⟩

/-- The path given for the settings file. -/
def configPath? : List String → Option String
  | [] => none
  | arg :: rest =>
      if arg = "--config" ∨ arg = "-c" then rest.head?
      else
        match Document.word? "--config=" arg.toList with
        | some path => some (String.ofList path)
        | none => configPath? rest

/-- Whether the topics are to be created. -/
def asksToCreate (args : List String) : Bool := args.contains "--create"

/-- What is said when topics are to be created. -/
def noBroker : String := "--create needs a broker to connect to"

/-- Run the command. -/
def run (s : Surroundings) (args : List String) : Outcome :=
  match Settings.load s (configPath? args) with
  | .error fault => .failed [] fault
  | .ok settings =>
      if settings.configurations.isEmpty then {}
      else
        match Application.ofSettings settings with
        | .error fault => .failed [] fault
        | .ok a =>
            match a.report with
            | ⟨lines, some (.reported fault)⟩ => .failed lines fault
            | ⟨lines, some .overflow⟩ => ⟨lines, .brokeDown⟩
            | ⟨lines, none⟩ => ⟨lines, if asksToCreate args then .failed noBroker else .done⟩

end Redelivery.CommandLine
