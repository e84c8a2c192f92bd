import DateRules.Query
import DateRules.RuleSource

/-!
Criteria: a date is in them when any rule matches it, or, if negated, when none does. Answers are
kept. New rules and a refresh recompute the kept answers; a change of negation flips them.
-/
namespace DateRules

structure Criteria where
  negate : Bool
  /-- Recompute the kept answers whenever rules are added. -/
  autoRefresh : Bool
  /-- In the order in which they were added; no two are equal. -/
  rules : List Rule
  /-- The kept answers, each date once, in the order in which they were first found. -/
  cache : List (Date × Bool)

/-- A kept answer that was dropped, because a lookup for its date fails now. -/
structure Eviction where
  date : Date
  year : Int
deriving DecidableEq, Repr

def Eviction.message (e : Eviction) : String :=
  s!"Evicting cached result for {e.date.iso}: " ++
    ((EvalError.easterOutOfTable e.year).message?.getD "")

namespace Criteria

def empty (negate autoRefresh : Bool) : Criteria := ⟨negate, autoRefresh, [], []⟩

/-- Whether `d` is in the criteria by the rules, whatever answer is kept. -/
def evaluate (rules : List Rule) (negate : Bool) (d : Date) : Except EvalError Bool :=
  (· ^^ negate) <$> anyMatches d rules

/-- Kept answers after a refresh, what was dropped, and the failure that ended it early. -/
structure Refresh where
  cache : List (Date × Bool)
  evictions : List Eviction
  failure : Option EvalError

namespace Refresh

def keep (entry : Date × Bool) (r : Refresh) : Refresh := { r with cache := entry :: r.cache }

def evict (e : Eviction) (r : Refresh) : Refresh := { r with evictions := e :: r.evictions }

end Refresh

/-- Recompute answers in order. A lookup outside its table drops the answer; any other failure ends
the refresh and leaves the rest as it was. -/
def recompute (rules : List Rule) (negate : Bool) : List (Date × Bool) → Refresh
  | [] => ⟨[], [], none⟩
  | (d, b) :: rest =>
    match evaluate rules negate d with
    | .ok v => (recompute rules negate rest).keep (d, v)
    | .error (.easterOutOfTable year) => (recompute rules negate rest).evict ⟨d, year⟩
    | .error e => ⟨(d, b) :: rest, [], some e⟩

def refresh (c : Criteria) : Criteria × List Eviction × Except EvalError Unit :=
  let r := recompute c.rules c.negate c.cache
  ({ c with cache := r.cache }, r.evictions,
    match r.failure with
    | some e => .error e
    | none => .ok ())

/-- Add compiled rules that are not there yet. The rules stay even if the refresh fails. -/
def insert (c : Criteria) (new : List Rule) : Criteria × List Eviction × Except EvalError Unit :=
  let c := { c with rules := (c.rules ++ new).eraseDups }
  if c.autoRefresh then c.refresh else (c, [], .ok ())

/-- Change the negation, and with it every kept answer. -/
def setNegate (c : Criteria) (negate : Bool) : Criteria :=
  if negate = c.negate then c
  else { c with negate := negate, cache := c.cache.map fun (d, b) => (d, !b) }

def clear (c : Criteria) : Criteria := { c with cache := [] }

/-- The kept answer for `d`, or else a new one, which is kept. -/
def containsDate (c : Criteria) (d : Date) : Criteria × Except EvalError Bool :=
  match c.cache.lookup d with
  | some b => (c, .ok b)
  | none =>
    match evaluate c.rules c.negate d with
    | .ok b => ({ c with cache := c.cache ++ [(d, b)] }, .ok b)
    | .error e => (c, .error e)

def summary (c : Criteria) : String :=
  s!"Criteria(negate={Data.truthText c.negate}, rules={c.rules.length}, " ++
    s!"cached={c.cache.length})"

end Criteria
end DateRules
