import DateRules.Proofs.Operand.Failure
import DateRules.Proofs.Rule.Conjunction

/-!
What a text that is no rule is reported for: the first of its clauses that does not compile, and of
all that may be wrong with that clause, what is found first.
-/
namespace DateRules

/-- There is one comparison operator, and the sides, without the blanks around them, are these. -/
def IsCutAt (clause : String) (left : List Char) (op : Comparison) (right : List Char) : Prop :=
  ∃ first piece, cutComparison clause.toList = ⟨first, [(op, piece)]⟩ ∧
    Text.trim first = left ∧ Text.trim piece = right

/-- What a clause is reported for. Of its sides the left one is read first, and only two operands
are compared. -/
inductive Reports (clause : String) : ClauseFault → Prop
  | operatorCount (hcount : (cutComparison clause.toList).rest.length ≠ 1) :
    Reports clause .operatorCount
  | left {left op right fault} (hcut : IsCutAt clause left op right)
    (hfault : Operand.ofChars left = .error fault) : Reports clause (.operand fault)
  | right {left op right l fault} (hcut : IsCutAt clause left op right)
    (hleft : Operand.ofChars left = .ok l) (hfault : Operand.ofChars right = .error fault) :
    Reports clause (.operand fault)
  | mismatch {left op right l r} (hcut : IsCutAt clause left op right)
    (hleft : Operand.ofChars left = .ok l) (hright : Operand.ofChars right = .ok r)
    (hcategory : l.category ≠ r.category) : Reports clause (.mismatch l r)
  | ordering {left op right l r} (hcut : IsCutAt clause left op right)
    (hleft : Operand.ofChars left = .ok l) (hright : Operand.ofChars right = .ok r)
    (hcategory : l.category = .weekday ∧ r.category = .weekday) (hop : op.isOrdering = true) :
    Reports clause (.operator (.weekdayOrdering op))

theorem Comparison.isDefinedFor_eq_false_iff {op : Comparison} {c : Category} :
    op.isDefinedFor c = false ↔ c = .weekday ∧ op.isOrdering = true := by
  cases op <;> cases c <;> decide

theorem Comparison.checkFor_eq_error_iff {op : Comparison} {c : Category} {f : OperatorFault} :
    op.checkFor c = .error f ↔ (c = .weekday ∧ op.isOrdering = true) ∧ f = .weekdayOrdering op := by
  rw [← isDefinedFor_eq_false_iff, checkFor]
  cases op.isDefinedFor c <;> simp [eq_comm]

namespace IsCutAt

variable {clause : String} {left right : List Char} {op : Comparison} {f : ClauseFault}

theorem isInfix (h : IsCutAt clause left op right) :
    left <:+: clause.toList ∧ right <:+: clause.toList := by
  obtain ⟨first, piece, hcut, rfl, rfl⟩ := h
  rw [eq_append_of_cutComparison hcut]
  refine ⟨(Text.isInfix_trim first).trans (List.prefix_append _ _).isInfix, ?_⟩
  rw [← List.append_assoc]
  exact (Text.isInfix_trim piece).trans (List.suffix_append _ _).isInfix

theorem trimmed (h : IsCutAt clause left op right) : Text.Trimmed left ∧ Text.Trimmed right := by
  obtain ⟨first, piece, -, rfl, rfl⟩ := h
  exact ⟨Text.trimmed_trim first, Text.trimmed_trim piece⟩

/-- The checks of a clause that has one operator, in their order. -/
theorem ofChars_eq_error_iff (h : IsCutAt clause left op right) :
    Constraint.ofChars clause.toList = .error f ↔
      (∃ fault, Operand.ofChars left = .error fault ∧ f = .operand fault) ∨
      ∃ l, Operand.ofChars left = .ok l ∧
        ((∃ fault, Operand.ofChars right = .error fault ∧ f = .operand fault) ∨
          ∃ r, Operand.ofChars right = .ok r ∧
            (l.category ≠ r.category ∧ f = .mismatch l r ∨
              l.category = r.category ∧ ∃ fault, op.checkFor l.category = .error fault ∧
                f = .operator fault)) := by
  obtain ⟨first, piece, hcut, rfl, rfl⟩ := h
  rw [Constraint.ofChars, hcut]
  simp only [Constraint.ofSides, bind_eq_error_iff, mapError_eq_error_iff, mapError_eq_ok_iff]
  refine or_congr_right (exists_congr fun l => and_congr_right fun _ => or_congr_right
    (exists_congr fun r => and_congr_right fun _ => ?_))
  by_cases hcategory : l.category = r.category
  · rw [if_neg (not_not.mpr hcategory)]
    simp [hcategory, bind_eq_error_iff, mapError_eq_error_iff, pure, Except.pure]
  · rw [if_pos hcategory]
    simp [hcategory, throw, throwThe, MonadExceptOf.throw, bind, Except.bind, eq_comm]

end IsCutAt

namespace Constraint

variable {clause : String} {f : ClauseFault}

theorem ofChars_of_operatorCount (hcount : (cutComparison clause.toList).rest.length ≠ 1) :
    ofChars clause.toList = .error .operatorCount := by
  unfold ofChars
  split
  · rename_i hcut
    exact absurd (congrArg (List.length ∘ Text.Cut.rest) hcut) hcount
  · rfl

theorem reports_of_ofChars (h : ofChars clause.toList = .error f) : Reports clause f := by
  by_cases hcount : (cutComparison clause.toList).rest.length = 1
  · obtain ⟨⟨op, piece⟩, hrest⟩ := List.length_eq_one_iff.mp hcount
    have hcut : IsCutAt clause (Text.trim (cutComparison clause.toList).first) op
        (Text.trim piece) :=
      ⟨_, piece, congrArg (Text.Cut.mk _) hrest, rfl, rfl⟩
    rcases hcut.ofChars_eq_error_iff.mp h with ⟨fault, hfault, rfl⟩ |
      ⟨l, hl, ⟨fault, hfault, rfl⟩ | ⟨r, hr, ⟨hcategory, rfl⟩ | ⟨hcategory, fault, hfault, rfl⟩⟩⟩
    · exact .left hcut hfault
    · exact .right hcut hl hfault
    · exact .mismatch hcut hl hr hcategory
    · obtain ⟨⟨hweekday, hop⟩, rfl⟩ := Comparison.checkFor_eq_error_iff.mp hfault
      exact .ordering hcut hl hr ⟨hweekday, hcategory ▸ hweekday⟩ hop
  · rw [ofChars_of_operatorCount hcount] at h
    cases h
    exact .operatorCount hcount

theorem ofChars_of_reports (h : Reports clause f) : ofChars clause.toList = .error f := by
  cases h with
  | operatorCount hcount => exact ofChars_of_operatorCount hcount
  | left hcut hfault => exact hcut.ofChars_eq_error_iff.mpr (.inl ⟨_, hfault, rfl⟩)
  | right hcut hleft hfault =>
    exact hcut.ofChars_eq_error_iff.mpr (.inr ⟨_, hleft, .inl ⟨_, hfault, rfl⟩⟩)
  | mismatch hcut hleft hright hcategory =>
    exact hcut.ofChars_eq_error_iff.mpr (.inr ⟨_, hleft, .inr ⟨_, hright, .inl ⟨hcategory, rfl⟩⟩⟩)
  | ordering hcut hleft hright hcategory hop =>
    have hfault := Comparison.checkFor_eq_error_iff.mpr ⟨⟨hcategory.1, hop⟩, rfl⟩
    have hsame := hcategory.1.trans hcategory.2.symm
    exact hcut.ofChars_eq_error_iff.mpr
      (.inr ⟨_, hleft, .inr ⟨_, hright, .inr ⟨hsame, _, hfault, rfl⟩⟩⟩)

theorem parse_eq_error_iff {e : CompileError} :
    parse clause = .error e ↔ e.clause = clause ∧ Reports clause e.fault := by
  obtain ⟨given, fault⟩ := e
  rw [parse, mapError_eq_error_iff]
  constructor
  · rintro ⟨f, hf, heq⟩
    cases heq
    exact ⟨rfl, reports_of_ofChars hf⟩
  · rintro ⟨rfl, hf⟩
    exact ⟨fault, ofChars_of_reports hf, rfl⟩

end Constraint

/-- The fault speaks of no side, or of a part of the clause; or one side has a numeral that is too
long to be read, which is no error of the grammar. -/
def CompileError.IsAttributed (e : CompileError) : Prop :=
  (∃ kind, e.kind? = some kind) ∧ (∀ part ∈ e.operand?, part.toList <:+: e.clause.toList) ∨
    e.kind? = none ∧ ∃ left op right, IsCutAt e.clause left op right ∧
      (HasLongNumeral left ∨ HasLongNumeral right)

theorem OperandFault.exists_kind_of_operand? {f : OperandFault} {part : String}
    (h : f.operand? = some part) : ∃ kind, f.kind? = some kind := by
  cases f <;> first | exact ⟨_, rfl⟩ | cases h

theorem isAttributed_of_isAbout {clause : String} {left right side : List Char} {op : Comparison}
    {f : OperandFault} (hcut : IsCutAt clause left op right) (hside : side = left ∨ side = right)
    (h : f.IsAbout side) : CompileError.IsAttributed ⟨clause, .operand f⟩ := by
  rcases h with ⟨part, hpart, hinside⟩ | ⟨rfl, hlong⟩
  · refine .inl ⟨OperandFault.exists_kind_of_operand? hpart, fun other hother => ?_⟩
    obtain rfl := Option.some.inj (hpart.symm.trans hother)
    rcases hside with rfl | rfl
    · exact hinside.trans hcut.isInfix.1
    · exact hinside.trans hcut.isInfix.2
  · refine .inr ⟨rfl, left, op, right, hcut, ?_⟩
    rcases hside with rfl | rfl
    · exact .inl hlong
    · exact .inr hlong

theorem Reports.isAttributed {clause : String} {f : ClauseFault} (h : Reports clause f) :
    CompileError.IsAttributed ⟨clause, f⟩ := by
  cases h with
  | operatorCount => exact .inl ⟨⟨_, rfl⟩, nofun⟩
  | left hcut hfault =>
    exact isAttributed_of_isAbout hcut (.inl rfl) (Operand.isAbout_of_ofChars hcut.trimmed.1 hfault)
  | right hcut hleft hfault =>
    exact isAttributed_of_isAbout hcut (.inr rfl) (Operand.isAbout_of_ofChars hcut.trimmed.2 hfault)
  | mismatch => exact .inl ⟨⟨_, rfl⟩, nofun⟩
  | ordering => exact .inl ⟨⟨_, rfl⟩, nofun⟩

theorem trimmed_of_mem_clauses {text clause : String} (h : clause ∈ clauses text) :
    Text.Trimmed clause.toList ∧ clause ≠ "" := by
  obtain ⟨cs, hcs, rfl⟩ := List.mem_map.mp h
  obtain ⟨hpiece, hne⟩ := List.mem_filter.mp hcs
  obtain ⟨piece, -, rfl⟩ := List.mem_map.mp hpiece
  rw [String.toList_ofList]
  refine ⟨Text.trimmed_trim piece, fun hempty => ?_⟩
  have hnil : Text.trim piece = [] := by
    rw [← String.toList_ofList (l := Text.trim piece), hempty]
    rfl
  rw [hnil] at hne
  cases hne

namespace Rule

/-- A text compiles when each of its clauses does. Otherwise the error is that of the first clause
that does not: it names the clause, and speaks of a part of it or of a numeral in it that is too
long. What is wrong with a clause is looked for from the operator to the sides, and then to the
sides together. A date that is moved at once can only leave the calendar, which is an error like the
others. -/
theorem first_failing_clause_is_reported (text name : String) (negate : Bool) :
    ((∃ r, parse text negate name = .ok r) ↔
      ∀ clause ∈ clauses text, ∃ c, Constraint.parse clause = .ok c) ∧
    (∀ e, parse text negate name = .error e ↔
      ∃ before clause behind, clauses text = before ++ clause :: behind ∧
        (∀ earlier ∈ before, ∃ c, Constraint.parse earlier = .ok c) ∧
        Constraint.parse clause = .error e) ∧
    (∀ clause ∈ clauses text, Text.Trimmed clause.toList ∧ clause ≠ "") ∧
    (∀ clause e, Constraint.parse clause = .error e ↔ e.clause = clause ∧ Reports clause e.fault) ∧
    (∀ clause e, Constraint.parse clause = .error e → e.IsAttributed) ∧
    ∀ (operand : String) (d : Date) (op : Arithmetic) (n : Int) (change : Change)
      (error : EvalError),
      op.change .date n = .ok change → change.apply (.date d) = .error error →
        error = .outsideCalendar ∧
          Operand.changedDate operand d op n = .error (.shiftedOutsideCalendar operand) := by
  refine ⟨?_, fun e => ?_, fun clause => trimmed_of_mem_clauses,
    fun clause e => Constraint.parse_eq_error_iff, fun clause e h => ?_,
    fun operand d op n change error => Operand.changedDate_of_apply_error⟩
  · rw [exists_parse_iff]
    exact exists_mapM_eq_ok_iff
  · rw [parse_eq_error_iff]
    exact mapM_eq_error_iff
  · obtain ⟨rfl, hreports⟩ := Constraint.parse_eq_error_iff.mp h
    exact hreports.isAttributed

/-- Only days of the week have no order; what is behind the clause that says otherwise is not
read. -/
example : parse "day == 1 ;; friday < Monday; x" false "" =
    .error ⟨"friday < Monday", .operator (.weekdayOrdering .lt)⟩ := by rfl

end Rule
end DateRules
