import CommandBook.Fault

/-!
# Errors of a command document

Everything that can be wrong with a command document, with its report, and the wider class of
rejections, to which the faults without a report belong as well.
-/

namespace CommandBook

/-- What is wrong with a command document. Most causes name the entry or the file they concern. -/
inductive ConfigError where
  /-- None of the places where a document may lie holds one. -/
  | noFile (searched : List String)
  | fileMissing (path : String)
  | invalidYaml (path problem : String)
  | rootNotMapping (path : String)
  | commandsMissing (path : String)
  | commandsNotMapping (path : String)
  | sectionNotMapping (section_ path : String)
  | timeoutNotNumber (path : String)
  /-- The commands of a document that has been loaded are absent. -/
  | commandsAbsent
  | commandsNoMapping
  | emptyName
  | mandatoryAfterOptional (command argument : String)
  | emptyArgument (command : String)
  | duplicateArgument (command argument : String)
  | commandNotMapping (command : String)
  | fieldNotText (command field : String)
  | endpointMalformed (command endpoint : String)
  | fieldNotMapping (command field : String)
deriving DecidableEq, Repr

def ConfigError.message : ConfigError → String
  | .noFile searched => "No config file found. Searched: " ++ String.intercalate ", " searched
  | .fileMissing path => s!"Config file not found: {path}"
  | .invalidYaml path problem => s!"Invalid YAML in {path}: {problem}"
  | .rootNotMapping path => s!"Config root must be a mapping: {path}"
  | .commandsMissing path => s!"Missing 'commands' section in {path}"
  | .commandsNotMapping path => s!"'commands' must be a mapping in {path}"
  | .sectionNotMapping name path => s!"'{name}' must be a mapping in {path}"
  | .timeoutNotNumber path => s!"'timeout' must be a number in {path}"
  | .commandsAbsent => "Missing 'commands' section"
  | .commandsNoMapping => "'commands' must be a mapping"
  | .emptyName => "Command name must not be empty"
  | .mandatoryAfterOptional command argument =>
    s!"Command '{command}': mandatory <{argument}> follows an optional argument"
  | .emptyArgument command => s!"Command '{command}': empty argument name"
  | .duplicateArgument command argument => s!"Command '{command}': duplicate argument '{argument}'"
  | .commandNotMapping command => s!"Command '{command}' must be a mapping"
  | .fieldNotText command field => s!"Command '{command}': '{field}' must be a string"
  | .endpointMalformed command endpoint =>
    s!"Command '{command}': endpoint must look like 'METHOD URL', got '{endpoint}'"
  | .fieldNotMapping command field => s!"Command '{command}': '{field}' must be a mapping"

/-- Why a command document was not accepted. -/
inductive Rejection where
  | config (e : ConfigError)
  | fault (f : Fault)
deriving DecidableEq, Repr

/-- The result of a step that can only fail by a fault. -/
def Rejection.ofFault {α : Type} (r : Except Fault α) : Except Rejection α :=
  r.mapError .fault

end CommandBook
