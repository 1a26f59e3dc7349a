import FareSearch.Settings.Basic
import FareSearch.Settings.Directory
import FareSearch.Settings.Format

/-!
# Sources of settings

Settings come from three layers: the defaults, a file if one is named and there is such a file,
and the variables of the environment. A later layer overrides an earlier one.
-/

namespace FareSearch

/-- Variables of the environment. -/
abbrev Environment := List (String × String)

/-- The start of the names of variables that are settings. -/
def variableMark : List Char :=
  "flights__".toList

/-- Two underscores stand for the point of a path. -/
def pathOfVariable : List Char → List Char
  | '_' :: '_' :: rest => '.' :: pathOfVariable rest
  | c :: rest => c :: pathOfVariable rest
  | [] => []

/-- The assignment of a variable whose name has the mark, in whatever case. -/
def assignmentOfVariable? (entry : String × String) : Option Assignment :=
  let name := (Text.lowercase entry.1).toList
  if variableMark.isPrefixOf name then
    let path := pathOfVariable (name.drop variableMark.length)
    some (String.ofList path, SettingValue.ofVariable entry.2)
  else none

/-- The assignments of an environment. -/
def Environment.assignments (environment : Environment) : List Assignment :=
  environment.filterMap assignmentOfVariable?

/-- The settings file of a path: the file itself if it is there, or else the first one that is there
under the path with an extension added. A file of an unknown kind is passed over. -/
def settingsFile? (directory : Directory) (path : String) : Option (SettingsFormat × String) :=
  match directory.read? path with
  | some text => (SettingsFormat.ofPath? path).map (·, text)
  | none =>
    (SettingsFormat.candidates path).findSome? fun (candidate, format) ↦
      (directory.read? candidate).map (format, ·)

/-- The settings of a list of assignments; what is not assigned has its default. -/
def settingsOf? (assignments : List Assignment) : Option AggregatorSettings := do
  let field (name : String) (limit default : Nat) : Option Nat :=
    match Assignment.lastValue? name assignments with
    | some value => value.nat? limit
    | none => some default
  return {
    cacheTtlSeconds := ← field "cache_ttl_secs" Number.limit64 60
    providerTimeoutMillis := ← field "provider_timeout_ms" Number.limit64 1000
    maxProviderRetries := ← field "max_provider_retries" Number.limit32 2
    rateLimitMillis := ← field "rate_limit_ms" Number.limit64 100
    requestTimeoutMillis := ← field "request_timeout_ms" Number.limit64 5000 }

/-- The assignments of the file of a path; none where no path is given or no file is there. -/
def assignmentsOfFile? (directory : Directory) (path : Option String) :
    Option (List Assignment) :=
  match path.bind (settingsFile? directory) with
  | none => some []
  | some (format, text) => format.assignments? (String.ofList (withoutMark text.toList))

/-- Settings from a file and the environment, checked. -/
def AggregatorSettings.load (directory : Directory) (path : Option String)
    (environment : Environment) : Except SettingsError AggregatorSettings :=
  match assignmentsOfFile? directory path with
  | none => .error .unusable
  | some assignments =>
    match settingsOf? (assignments ++ environment.assignments) with
    | none => .error .unusable
    | some settings => settings.validate.map fun _ ↦ settings

end FareSearch
