import FareSearch.CommandLine.Program

/-!
# The command

Reads the files and the variables that a command line may refer to, runs the program on a simulated
clock and prints what it shows. A command line that is not accepted ends with status 2, any other
failure with status 1.
-/

namespace FareSearch.CommandLine

/-- The variables that are settings. -/
def settingVariables : List String :=
  AggregatorSettings.fieldNames.map fun name ↦ "FLIGHTS__" ++ Text.asciiUpper name

/-- The files that a command line may refer to. -/
def pathsOf (words : List String) : List String :=
  match Invocation.read words with
  | .error _ => []
  | .ok invocation =>
    let settings := match invocation.config with
      | some path => path :: (SettingsFormat.candidates path).map (·.1)
      | none => []
    ".env" :: settings ++ profiles.map fun profile ↦ joinPath invocation.fixtures profile.file

def readFile? (path : String) : IO (Option (String × String)) := do
  try
    return some (path, ← IO.FS.readFile path)
  catch _ =>
    return none

def readVariable? (name : String) : IO (Option (String × String)) := do
  return (← IO.getEnv name).map (name, ·)

/-- The runs of the characters of a class in a text. -/
def runsOf (isPart : Char → Bool) (text : String) : List String :=
  let runs := text.toList.splitBy fun left right ↦ isPart left == isPart right
  (runs.filter fun run ↦ run.head?.any isPart).map String.ofList

/-- The variables that an environment file may assign or refer to. -/
def variablesIn (directory : Directory) : List String :=
  let text := (directory.read? ".env").getD ""
  runsOf EnvironmentFile.isNameChar text ++ runsOf Text.isAlphanumeric text

def readSurroundings (words : List String) : IO Surroundings := do
  let files ← (pathsOf words).filterMapM readFile?
  let directory : Directory := ⟨files⟩
  let names := (settingVariables ++ variablesIn directory).eraseDups
  return { directory, environment := ← names.filterMapM readVariable? }

def statusOf : Failure → UInt32
  | .usage .displayHelp => 0
  | .usage _ => 2
  | _ => 1

end FareSearch.CommandLine

open FareSearch CommandLine in
def main (words : List String) : IO UInt32 := do
  let surroundings ← readSurroundings words
  let seed ← IO.monoNanosNow
  let seeds := profiles.mapIdx fun index _ ↦ Generator.ofSeed (seed + index)
  match run surroundings Generator.source seeds words with
  | .error failure =>
    IO.eprintln failure.message
    return statusOf failure
  | .ok (format, outcomes) =>
    for outcome in outcomes do
      for text in format.texts outcome do
        IO.println text
    return 0
