import DateRules.Criteria.Step
import DateRules.Yaml.Document

/-!
Criteria from configuration data: one block, or several named blocks under `calendars`.
-/
namespace DateRules

/-- One block. Its rules are compiled when the criteria are built. -/
structure Config where
  negate : Bool
  autoRefresh : Bool
  rules : List Data
  name : Data

inductive ConfigError where
  | fileNotFound
  | invalidYaml
  /-- The file follows the grammar, but a scalar in it has no value. -/
  | badScalar (e : Yaml.ScalarError)
  | nestedTooDeep
  | notAMapping
  | noCalendars
  | blockNotAMapping (name : String)
  | rulesNotAList (typeName : String)
  | unwritableName
  | source (e : SourceError)

def ConfigError.message? (path : String) : ConfigError → Option String
  | fileNotFound => some s!"Configuration file not found: {path}"
  | invalidYaml => some s!"Error parsing {path}: <yaml error>"
  | badScalar _ | nestedTooDeep | unwritableName => none
  | notAMapping => some s!"Error parsing {path}: expected a mapping at top level"
  | noCalendars => some s!"Error parsing {path}: missing 'calendars' mapping"
  | blockNotAMapping name => some s!"Error parsing {path}: calendar '{name}' must be a mapping"
  | rulesNotAList typeName => some s!"'rules' must be a list, got {typeName}"
  | source e => e.message?

/-- The data of a file, given its text, or nothing if there is no file. The characters of `m` stand
for the surrogates that the text names. -/
def fileData (m : Text.StandIns) (text? : Option String) : Except ConfigError Data :=
  match text? with
  | none => .error .fileNotFound
  | some text => (Data.ofYaml m text).mapError fun
    | .invalid => .invalidYaml
    | .tooDeep => .nestedTooDeep
    | .scalar e => .badScalar e

namespace Config

/-- The rules of a block; a value that is not set gives none. -/
def readRules (entries : List (Data × Data)) : Except ConfigError (List Data) :=
  match Data.get? entries "rules" with
  | none => .ok []
  | some v =>
    match v.list? with
    | some items => .ok items
    | none => if v.isSet then .error (.rulesNotAList v.typeName) else .ok []

def ofEntries (entries : List (Data × Data)) (name : Data) : Except ConfigError Config := do
  let rules ← readRules entries
  let negate ← (readFlag entries "negate" false).mapError .source
  let autoRefresh ← (readFlag entries "auto_refresh" true).mapError .source
  return ⟨negate, autoRefresh, rules, name⟩

/-- The entries of a whole file; a file without content has none. -/
def topEntries (file : Data) : Except ConfigError (List (Data × Data)) :=
  match file.entries? with
  | some entries => .ok entries
  | none => if file.isSet then .error .notAMapping else .ok []

def ofFile (m : Text.StandIns) (text? : Option String) : Except ConfigError Config := do
  let entries ← topEntries (← fileData m text?)
  ofEntries entries ((Data.get? entries "name").getD .null)

/-- Compile the rules. Nothing is kept yet, so nothing is refreshed. -/
def build (config : Config) : Except SourceError Criteria := do
  let rules ← (RuleBatch.items (config.rules.map .data)).compile
  return { ((Criteria.empty config.negate false).insert rules).1 with
    autoRefresh := config.autoRefresh }

end Config

/-- Criteria under their names, each name once. -/
abbrev Calendars := List (String × Criteria)

/-- Set the criteria of a name; a name that is there keeps its place. -/
def Calendars.insert (name : String) (c : Criteria) : Calendars → Calendars
  | [] => [(name, c)]
  | e :: es => if e.1 = name then (name, c) :: es else e :: Calendars.insert name c es

def calendarOfBlock (name : String) (block : Data) : Except ConfigError Criteria := do
  let entries ← match block, block.entries? with
    | _, some entries => pure entries
    | .null, none => pure []
    | _, none => throw (.blockNotAMapping name)
  (← Config.ofEntries entries (.text name)).build.mapError .source

def calendarsOfBlocks : Calendars → List (Data × Data) → Except ConfigError Calendars
  | built, [] => .ok built
  | built, (key, block) :: blocks => do
    let some name := key.name? | throw .unwritableName
    calendarsOfBlocks (built.insert name (← calendarOfBlock name block)) blocks

def Calendars.ofData (file : Data) : Except ConfigError Calendars := do
  match (Data.get? (← Config.topEntries file) "calendars").bind Data.entries? with
  | some blocks => calendarsOfBlocks [] blocks
  | none => throw .noCalendars

def Calendars.ofFile (m : Text.StandIns) (text? : Option String) :
    Except ConfigError Calendars := do
  Calendars.ofData (← fileData m text?)

end DateRules
