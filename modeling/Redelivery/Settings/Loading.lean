/-
  Redelivery.Settings.Loading
  ───────────────────────────
  **Gathering settings from files and variables.**

  Four layers, each over the one before: the common file, which may be
  missing; the file that is asked for; the file that a variable names; and
  the variables.  What was gathered is read with forgiveness, and every retry
  configuration in it must hold together.
-/
import Redelivery.Settings.Basic
import Redelivery.Settings.Layers

namespace Redelivery

/-- Where settings are looked for. -/
structure Surroundings where
  /-- The text of the file at a path, if there is one. -/
  file? : String → Option String
  /-- The variables, by name. -/
  environment : List (String × String)

namespace Surroundings

/-- The file that is looked for without being asked for. -/
def commonFile : String := "retrytopic.yaml"

/-- The variable that names a further file. -/
def fileVariable : String := "RETRYTOPIC_CONFIG"

/-- The first part of the name of a variable that holds a setting, in small letters. -/
def settingStart : String := "retrytopic__"

/-- The paths under which a file is looked for: as it is given, and with the usual endings. -/
def candidates (path : String) : List String := [path, path ++ ".yaml", path ++ ".yml"]

/-- The text of the file that is meant by a path. -/
def text? (s : Surroundings) (path : String) : Option String := (candidates path).findSome? s.file?

/-- The entries of a file; a blank file has none. -/
def entries? (text : String) : Option (List (String × Document)) :=
  if (Document.skipBlank text.toList).isEmpty then some []
  else match (Document.parse? text).map Document.fitted with
    | some (.map entries) => some entries
    | _ => none

/-- The entries of a file that must be there. -/
def required? (s : Surroundings) (path : String) : Option (List (String × Document)) :=
  (s.text? path).bind entries?

/-- The setting of a variable: two underscores in its name stand for the point between two levels
of the key. -/
def setting? : String × String → Option (String × Document)
  | (name, value) =>
      (Document.word? settingStart (Text.lower name).toList).map fun key =>
        (".".intercalate ((String.ofList key).splitOn "__"), Coercion.ofVariable value)

/-- The layers, the lowest first; none if a file cannot be read. -/
def layers? (s : Surroundings) (path : Option String) :
    Option (List (List (String × Document))) := do
  let common ← match s.text? commonFile with
    | some text => entries? text
    | none => some []
  -- Both files were named by somebody, so both must be there.
  let files ← (path.toList ++ (s.environment.lookup fileVariable).toList).mapM s.required?
  return common :: files ++ [s.environment.filterMap setting?]

/-- Everything that was gathered, as one document. -/
def gather? (s : Surroundings) (path : Option String) : Option Document :=
  (s.layers? path).map fun layers => layers.foldl Document.layLayer (.map [])

end Surroundings

/-- The settings that are found, if they can be read and hold together. -/
def Settings.load (s : Surroundings) (path : Option String) : Except ConfigurationFault Settings :=
  match (s.gather? path).bind (ofDocument? .forgiving) with
  | none => .error .unreadable
  | some settings =>
      match settings.validate with
      | .ok () => .ok settings
      | .error fault => .error fault

end Redelivery
