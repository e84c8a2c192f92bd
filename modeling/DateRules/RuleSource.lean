import DateRules.Data
import DateRules.Rule

/-!
What rules are made from: rule text, a compiled rule, or a mapping with a text, a negation flag and
a name.
-/
namespace DateRules

inductive RuleSource where
  | text (s : String)
  | compiled (r : Rule)
  | data (v : Data)

/-- Why a source gives no rule. The last two have no wording of their own. -/
inductive SourceError where
  | compile (e : CompileError)
  | notATruthValue (key value : String)
  | mappingWithoutText (mapping : String)
  | optionsWithoutText (typeName : String)
  | unsupportedType (typeLabel : String)
  /-- A name or a message holds an integer that cannot be written. -/
  | unwritable
  | notAList

def SourceError.message? : SourceError → Option String
  | compile e => some e.message
  | notATruthValue key value => some s!"'{key}' must be true or false, got {value}"
  | mappingWithoutText mapping => some s!"Rule mapping needs a 'rule' string, got {mapping}"
  | optionsWithoutText typeName =>
    some s!"negate and name only apply to rule text, not {typeName}"
  | unsupportedType typeLabel => some s!"Unsupported rule type: {typeLabel}"
  | unwritable | notAList => none

def SourceError.quoting (e : String → SourceError) (v : Data) : SourceError :=
  match v.quoted? with
  | some s => e s
  | none => unwritable

/-- A truth value of a mapping; one that is missing or null is the default. -/
def readFlag (entries : List (Data × Data)) (key : String) (default : Bool) :
    Except SourceError Bool :=
  match Data.get? entries key with
  | none | some .null => .ok default
  | some (.bool b) => .ok b
  | some v => .error (.quoting (.notATruthValue key) v)

/-- The text of a mapping stands under `rule`, or under `text` if there is no `rule`. -/
def ruleText? (entries : List (Data × Data)) : Option String :=
  ((Data.get? entries "rule").or (Data.get? entries "text")).bind Data.text?

/-- A name that is not set is empty. -/
def ruleName (entries : List (Data × Data)) : Except SourceError String :=
  match Data.get? entries "name" with
  | some v =>
    if !v.isSet then .ok ""
    else match v.name? with
      | some name => .ok name
      | none => .error .unwritable
  | none => .ok ""

def compileText (text : String) (negate : Bool) (name : String) : Except SourceError Rule :=
  (Rule.parse text negate name).mapError .compile

def compileMapping (entries : List (Data × Data)) : Except SourceError Rule :=
  match ruleText? entries with
  | none => .error (.quoting .mappingWithoutText (.mapping entries))
  | some text => do
    let negate ← readFlag entries "negate" false
    compileText text negate (← ruleName entries)

namespace RuleSource

def typeName : RuleSource → String
  | text _ => "str"
  | compiled _ => "Rule"
  | data v => v.typeName

/-- The result for a source that takes no negation and no name beside it. -/
def alone (source : RuleSource) (negate : Bool) (name : String)
    (result : Except SourceError Rule) : Except SourceError Rule :=
  if negate || !name.isEmpty then .error (.optionsWithoutText source.typeName) else result

/-- Compile a source. A negation or a name beside it goes with rule text alone. -/
def compile (source : RuleSource) (negate : Bool) (name : String) : Except SourceError Rule :=
  match source with
  | text s | data (.text s) | data (.textWith _ s) => compileText s negate name
  | compiled r => source.alone negate name (.ok r)
  | data v => source.alone negate name <| match v.entries? with
    | some entries => compileMapping entries
    | none => .error (.unsupportedType v.typeLabel)

end RuleSource

/-- Several sources: a list of them, or a value that yields them. -/
inductive RuleBatch where
  | items (sources : List RuleSource)
  | value (v : Data)

namespace RuleBatch

def sources : RuleBatch → Except SourceError (List RuleSource)
  | items sources => .ok sources
  | value v =>
    match v.items? with
    | some vs => .ok (vs.map .data)
    | none => .error .notAList

def isSet : RuleBatch → Bool
  | items sources => !sources.isEmpty
  | value v => v.isSet

/-- Compile all sources, in order; the first that fails is reported. -/
def compile (b : RuleBatch) : Except SourceError (List Rule) := do
  (← b.sources).mapM fun s => s.compile false ""

end RuleBatch
end DateRules
