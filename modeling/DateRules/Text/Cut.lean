/-!
Cutting a text at operators. Operator characters that stand together form one run, and only a run
that an operator begins is cut; all else stays in the pieces.
-/
namespace DateRules.Text

/-- The pieces of a text between the operators that cut it. -/
structure Cut (α : Type) where
  first : List Char
  rest : List (α × List Char)
deriving Repr

namespace Cut

def prepend (cs : List Char) (c : Cut α) : Cut α := { c with first := cs ++ c.first }

def insert (op : α) (c : Cut α) : Cut α := ⟨[], (op, c.first) :: c.rest⟩

end Cut

/-- The text as runs of characters that are all in the class or all outside it. -/
def runs (inClass : Char → Bool) (cs : List Char) : List (List Char) :=
  cs.splitBy fun a b => inClass a == inClass b

/-- Cut at every run for which `operator?` gives an operator; what it leaves of the run begins the
next piece. -/
def cutAt (inClass : Char → Bool) (operator? : List Char → Option (α × List Char))
    (cs : List Char) : Cut α :=
  (runs inClass cs).foldr
    (fun run cut => match operator? run with
      | some (op, left) => (cut.prepend left).insert op
      | none => cut.prepend run)
    ⟨[], []⟩

end DateRules.Text
