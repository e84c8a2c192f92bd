import DateRules.Criteria

/-!
Operations on criteria as values, and their effect. A step that fails keeps the effects it had up to
the failure.
-/
namespace DateRules

inductive StepError where
  | source (e : SourceError)
  | query (e : QueryError)
  | eval (e : EvalError)

inductive Step where
  | addRule (source : RuleSource) (negate : Bool) (name : String)
  | addRules (batch : RuleBatch)
  | contains (q : Query)
  | containsAny (qs : List Query)
  | containsAll (qs : List Query)
  | matchingDates (first last : Query)
  | setNegate (negate : Bool)
  | setAutoRefresh (autoRefresh : Bool)
  | refreshCache
  | clearCache
  | summary

inductive Answer where
  | rule (r : Rule)
  | rules (rs : List Rule)
  | truth (b : Bool)
  /-- The dates found up to a failure, if there was one. -/
  | dates (found : List Date) (stopped : Option StepError)
  | done
  | line (s : String)

structure StepResult where
  state : Criteria
  evictions : List Eviction
  answer : Except StepError Answer

namespace Criteria

def contains (c : Criteria) (q : Query) : Criteria × Except StepError Bool :=
  match q.toDate with
  | .error e => (c, .error (.query e))
  | .ok d => let (c, r) := c.containsDate d; (c, r.mapError .eval)

/-- Look values up until one gives `wanted` or fails. -/
def scan (wanted : Bool) (c : Criteria) : List Query → Criteria × Except StepError Bool
  | [] => (c, .ok !wanted)
  | q :: qs =>
    match c.contains q with
    | (c, .ok b) => if b = wanted then (c, .ok wanted) else scan wanted c qs
    | (c, .error e) => (c, .error e)

/-- Whether one of the values is in the criteria; the values after it are not looked up. -/
def containsAny (c : Criteria) (qs : List Query) : Criteria × Except StepError Bool :=
  c.scan true qs

/-- Whether all values are in the criteria; those after the first that is not are not looked up. -/
def containsAll (c : Criteria) (qs : List Query) : Criteria × Except StepError Bool :=
  c.scan false qs

/-- The dates in the criteria among the `count` days from `d` on, up to the first failure. -/
def sweep (c : Criteria) : (count : Nat) → (d : Date) → Criteria × List Date × Option StepError
  | 0, _ => (c, [], none)
  | count + 1, d =>
    match c.containsDate d with
    | (c, .error e) => (c, [], some (.eval e))
    | (c, .ok b) =>
      let (c, found, stopped) := match d.addDays? 1 with
        | some next => c.sweep count next
        | none => (c, [], none)
      (c, if b then d :: found else found, stopped)

/-- The dates in the criteria from `first` to `last`, both included. -/
def matchingDates (c : Criteria) (first last : Query) :
    Criteria × List Date × Option StepError :=
  match first.toDate, last.toDate with
  | .error e, _ | .ok _, .error e => (c, [], some (.query e))
  | .ok d, .ok e => c.sweep (e.dayNumber + 1 - d.dayNumber) d

def finish (r : Criteria × List Eviction × Except EvalError Unit) (answer : Answer) : StepResult :=
  ⟨r.1, r.2.1, r.2.2.mapError StepError.eval |>.map fun _ => answer⟩

def run (c : Criteria) : Step → StepResult
  | .addRule source negate name =>
    match source.compile negate name with
    | .error e => ⟨c, [], .error (.source e)⟩
    | .ok r => finish (c.insert [r]) (.rule r)
  | .addRules batch =>
    match batch.compile with
    | .error e => ⟨c, [], .error (.source e)⟩
    | .ok rs => finish (c.insert rs) (.rules rs)
  | .contains q => let (c, r) := c.contains q; ⟨c, [], r.map .truth⟩
  | .containsAny qs => let (c, r) := c.containsAny qs; ⟨c, [], r.map .truth⟩
  | .containsAll qs => let (c, r) := c.containsAll qs; ⟨c, [], r.map .truth⟩
  | .matchingDates first last =>
    let (c, found, stopped) := c.matchingDates first last
    ⟨c, [], .ok (.dates found stopped)⟩
  | .setNegate negate => ⟨c.setNegate negate, [], .ok .done⟩
  | .setAutoRefresh autoRefresh => ⟨{ c with autoRefresh := autoRefresh }, [], .ok .done⟩
  | .refreshCache => finish c.refresh .done
  | .clearCache => ⟨c.clear, [], .ok .done⟩
  | .summary => ⟨c, [], .ok (.line c.summary)⟩

/-- Carry out steps in order, each on the state that the one before it left. -/
def runAll (c : Criteria) : List Step → List StepResult
  | [] => []
  | s :: ss =>
    let r := c.run s
    r :: r.state.runAll ss

/-- Criteria with the given rules; nothing is kept yet. -/
def create (negate autoRefresh : Bool) (rules : RuleBatch) : Except SourceError Criteria := do
  let c := empty negate autoRefresh
  if rules.isSet then return (c.insert (← rules.compile)).1 else return c

end Criteria
end DateRules
