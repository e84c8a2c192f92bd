import DateRules.Proofs.Soundness

/-!
What it says of a date that the rules miss it in a table. Whatever the rules are, and whether or not
they were compiled from text, the year that is missed is that of the date, and it is one that the
table of Easter does not cover.
-/
namespace DateRules

/-- If `error` is a miss, then of the year of `d`. -/
def TellsYear (d : Date) (error : EvalError) : Prop :=
  ∀ year, error = .easterOutOfTable year → year = d.year ∧ (d.year < 1900 ∨ 2099 < d.year)

variable {d : Date} {error : EvalError}

theorem tellsYear_of_ne (h : ∀ year, error ≠ .easterOutOfTable year) : TellsYear d error :=
  fun year hmiss => absurd hmiss (h year)

theorem Value.asDate_tellsYear {v : Value} (h : v.asDate = .error error) : TellsYear d error := by
  cases v <;> cases h <;> exact tellsYear_of_ne nofun

theorem Value.asInteger_tellsYear {v : Value} (h : v.asInteger = .error error) :
    TellsYear d error := by
  cases v <;> cases h <;> exact tellsYear_of_ne nofun

theorem Value.order_tellsYear {v w : Value} (h : v.order w = .error error) : TellsYear d error := by
  cases v <;> cases w <;> cases h <;> exact tellsYear_of_ne nofun

theorem Arithmetic.onInteger_tellsYear {op : Arithmetic} {left right : Int}
    (h : op.onInteger left right = .error error) : TellsYear d error := by
  apply tellsYear_of_ne
  rintro year rfl
  cases op <;> simp only [onInteger, negativePower] at h <;> grind

theorem Number.whole_tellsYear {x : Number} (h : x.whole = .error error) : TellsYear d error := by
  cases x <;> cases h
  exact tellsYear_of_ne nofun

theorem Change.apply_tellsYear {c : Change} {v : Value} (h : c.apply v = .error error) :
    TellsYear d error := by
  cases c with
  | move days =>
    rcases bind_eq_error_iff.mp h with hdate | ⟨e, -, hmove⟩
    · exact Value.asDate_tellsYear hdate
    · obtain ⟨-, rfl⟩ := addDays_eq_error_iff.mp (map_eq_error_iff.mp hmove)
      exact tellsYear_of_ne nofun
  | combine op right =>
    rcases bind_eq_error_iff.mp h with hinteger | ⟨z, -, hcombine⟩
    · exact Value.asInteger_tellsYear hinteger
    · rcases bind_eq_error_iff.mp hcombine with hnumber | ⟨x, -, hwhole⟩
      · exact Arithmetic.onInteger_tellsYear hnumber
      · exact Number.whole_tellsYear (map_eq_error_iff.mp hwhole)

theorem Quantity.on_tellsYear {q : Quantity} (h : q.on d = .error error) : TellsYear d error := by
  obtain ⟨⟨-, houtside⟩, rfl⟩ := on_eq_error_iff.mp h
  rintro year ⟨⟩
  exact ⟨rfl, houtside⟩

theorem Expression.eval_tellsYear {e : Expression} (h : e.eval d = .error error) :
    TellsYear d error := by
  cases e with
  | constant v => cases h
  | quantity q => exact Quantity.on_tellsYear h
  | changed q c =>
    rcases bind_eq_error_iff.mp h with hquantity | ⟨v, -, hchange⟩
    · exact Quantity.on_tellsYear hquantity
    · exact Change.apply_tellsYear hchange

theorem Constraint.eval_tellsYear {c : Constraint} (h : c.eval d = .error error) :
    TellsYear d error := by
  rcases bind_eq_error_iff.mp h with hleft | ⟨v, -, h⟩
  · exact Expression.eval_tellsYear hleft
  rcases bind_eq_error_iff.mp h with hright | ⟨w, -, horder⟩
  · exact Expression.eval_tellsYear hright
  · exact Value.order_tellsYear (map_eq_error_iff.mp horder)

theorem Rule.matches_tellsYear {r : Rule} (h : r.matches? d = .error error) :
    TellsYear d error := by
  rcases bind_eq_error_iff.mp h with hconstraints | ⟨b, -, hdone⟩
  · obtain ⟨c, -, hc⟩ := allHold_eq_error hconstraints
    exact Constraint.eval_tellsYear hc
  · cases hdone

theorem anyMatches_tellsYear {rules : List Rule} (h : anyMatches d rules = .error error) :
    TellsYear d error := by
  obtain ⟨r, -, hr⟩ := anyMatches_eq_error h
  exact Rule.matches_tellsYear hr

end DateRules
