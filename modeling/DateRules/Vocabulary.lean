import DateRules.Calendar.Weekday
import DateRules.Text.Blank
import DateRules.Text.Case
import DateRules.Text.Similarity

/-!
The names of the rule language: quantities that depend on the queried date, and days of the week.
Letter case and blanks around a name do not matter.
-/
namespace DateRules

/-- Two values compare only within one category. -/
inductive Category where
  | date | weekday | integer
deriving DecidableEq, Repr

def Category.name : Category → String
  | .date => "Date"
  | .weekday => "DayOfWeek"
  | .integer => "Integer"

inductive Quantity where
  | date | day | month | year | weekday | dayNumber | dayOfYear | easter | endOfMonth
deriving DecidableEq, Repr

namespace Quantity

def all : List Quantity :=
  [date, day, month, year, weekday, dayNumber, dayOfYear, easter, endOfMonth]

def name : Quantity → String
  | date => "date"
  | day => "day"
  | month => "month"
  | year => "year"
  | weekday => "dayofweek"
  | dayNumber => "daynumber"
  | dayOfYear => "dayofyear"
  | easter => "easter"
  | endOfMonth => "endofmonth"

def category : Quantity → Category
  | date | easter | endOfMonth => .date
  | weekday => .weekday
  | day | month | year | dayNumber | dayOfYear => .integer

end Quantity

/-- The form in which names are compared. -/
def nameKey (cs : List Char) : List Char := Text.lower (Text.trim cs)

def Quantity.ofName? (cs : List Char) : Option Quantity :=
  Quantity.all.find? fun q => q.name.toList == nameKey cs

def Weekday.ofName? (cs : List Char) : Option Weekday :=
  Weekday.all.find? fun w => w.name.toList == nameKey cs

/-- Every name, in the order in which equally good suggestions are preferred. -/
def knownNames : List String := Quantity.all.map Quantity.name ++ Weekday.all.map Weekday.name

/-- The most similar of `names`, the first one among equals. -/
def mostSimilar? (term : List Char) : List String → Option (String × Text.Similarity)
  | [] => none
  | name :: names =>
    let here := Text.Similarity.between term name.toList
    match mostSimilar? term names with
    | some (other, there) => some (if here.isBelow there then (other, there) else (name, here))
    | none => some (name, here)

/-- Hundredths of similarity from which on a misspelt name is taken for a known one. -/
def suggestionThreshold : Text.Threshold := .whole 75

def suggestName? (term : List Char) (threshold : Text.Threshold) : Option String :=
  if term.isEmpty then none else
  match mostSimilar? (Text.lower term) knownNames with
  | some (name, similarity) => if similarity.reaches threshold then some name else none
  | none => none

end DateRules
