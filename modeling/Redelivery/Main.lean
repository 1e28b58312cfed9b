/-
  Redelivery.Main
  ───────────────
  **The command itself: reading what is around it, and printing.**
-/
import Redelivery.CommandLine

namespace Redelivery.Main

/-- The variables of the process, from their list with a zero after each. -/
def variablesOf (text : String) : List (String × String) :=
  (text.splitOn "\x00").filterMap fun entry =>
    match entry.splitOn "=" with
    | name :: rest@(_ :: _) => some (name, "=".intercalate rest)
    | _ => none

/-- The text of a file, if it can be read. -/
def readText (path : String) : IO (Option String) :=
  try return some (← IO.FS.readFile path) catch _ => return none

/-- The files that may be asked for, with their texts. -/
def readFiles (paths : List String) : IO (List (String × String)) := do
  let mut files := []
  for path in paths.flatMap Surroundings.candidates do
    match ← readText path with
    | some text => files := files ++ [(path, text)]
    | none => pure ()
  return files

end Redelivery.Main

open Redelivery in
/-- Print the chains of the settings; the arguments are those of `CommandLine.run`. -/
def main (args : List String) : IO UInt32 := do
  let environment := Main.variablesOf ((← Main.readText "/proc/self/environ").getD "")
  let files ← Main.readFiles (Surroundings.commonFile :: (CommandLine.configPath? args).toList
    ++ (environment.lookup Surroundings.fileVariable).toList)
  let outcome := CommandLine.run ⟨fun path => files.lookup path, environment⟩ args
  for line in outcome.lines do
    IO.println line
  match outcome.ending with
  | .failed complaint => IO.eprintln complaint
  | .done | .brokeDown => pure ()
  return outcome.ending.exitCode
