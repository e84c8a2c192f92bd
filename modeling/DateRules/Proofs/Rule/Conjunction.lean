import DateRules.Proofs.Constraint.Identity
import DateRules.Proofs.Rule.Identity
import DateRules.Proofs.Soundness

/-!
Rule texts put together with a semicolon. They compile when each of them does, and the rule is their
conjunction: the second is asked only where the first holds. A clause that says again what an
earlier one said is asked only where that one held, so it may as well be left out.
-/
namespace DateRules

variable {a b again text name : String} {negate : Bool} {d : Date}

theorem clauses_append (a b : String) : clauses (a ++ ";" ++ b) = clauses a ++ clauses b := by
  have hsplit : (a ++ ";" ++ b).toList.splitOn ';' =
      a.toList.splitOn ';' ++ b.toList.splitOn ';' := by
    rw [String.toList_append, String.toList_append, List.append_assoc]
    exact List.splitOnP_append_cons _ _ (beq_self_eq_true ';')
  rw [clauses, hsplit, List.map_append, List.filter_append, List.map_append]
  rfl

/-- Nothing but blanks and semicolons. -/
def HoldsNoClause (text : String) : Prop := ∀ x ∈ text.toList, Text.isBlank x = true ∨ x = ';'

/-- The clause is `earlier` once more, but for letter case and the blanks around the operator. Where
`earlier` does not compile, nothing is asked: no clause behind it is read. -/
def Restates (clause earlier : String) : Prop :=
  ∀ c, Constraint.parse earlier = .ok c →
    ∃ c', Constraint.parse clause = .ok c' ∧ (c' == c) = true

/-- Each clause of `again` is one of `text` once more. -/
def Repeats (again text : String) : Prop :=
  ∀ clause ∈ clauses again, ∃ earlier ∈ clauses text, Restates clause earlier

theorem restates_iff {clause earlier : String} : Restates clause earlier ↔
    (match Constraint.parse earlier, Constraint.parse clause with
      | .ok c, .ok c' => c' == c
      | .ok _, .error _ => false
      | .error _, _ => true) = true := by
  unfold Restates
  cases Constraint.parse earlier with
  | error e => simp
  | ok c => cases Constraint.parse clause <;> simp

instance (clause earlier : String) : Decidable (Restates clause earlier) :=
  decidable_of_iff' _ restates_iff

instance (again text : String) : Decidable (Repeats again text) :=
  inferInstanceAs (Decidable (∀ clause ∈ clauses again, ∃ earlier ∈ clauses text, _))

theorem allBlank_of_mem_splitOn {cs : List Char} (h : ∀ x ∈ cs, Text.isBlank x = true ∨ x = ';') :
    ∀ piece ∈ cs.splitOn ';', Text.AllBlank piece := by
  induction cs with
  | nil => exact List.forall_mem_singleton.mpr nofun
  | cons x cs ih =>
    obtain ⟨hx, hcs⟩ := List.forall_mem_cons.mp h
    rw [List.splitOn_eq_splitOnP, List.splitOnP_cons_eq_if_modifyHead, ← List.splitOn_eq_splitOnP]
    split
    · exact List.forall_mem_cons.mpr ⟨nofun, ih hcs⟩
    · rename_i hne
      have hblank : Text.isBlank x = true := hx.resolve_right fun heq => hne (beq_iff_eq.mpr heq)
      obtain ⟨piece, pieces, hsplit⟩ := List.exists_cons_of_ne_nil (List.splitOn_ne_nil ';' cs)
      have hpieces := ih hcs
      rw [hsplit] at hpieces ⊢
      obtain ⟨hpiece, hrest⟩ := List.forall_mem_cons.mp hpieces
      exact List.forall_mem_cons.mpr ⟨List.forall_mem_cons.mpr ⟨hblank, hpiece⟩, hrest⟩

theorem HoldsNoClause.clauses_eq_nil (h : HoldsNoClause text) : clauses text = [] := by
  have hnone : ((text.toList.splitOn ';').map Text.trim).filter (!·.isEmpty) = [] := by
    rw [List.filter_eq_nil_iff]
    refine List.forall_mem_map.mpr fun piece hpiece => ?_
    have hnothing : Text.Trimmed [] := ⟨by simp, by simp⟩
    have htrim := Text.trim_append (allBlank_of_mem_splitOn h piece hpiece) hnothing
      (nofun : Text.AllBlank [])
    rw [List.append_nil, List.append_nil] at htrim
    rw [htrim]
    decide
  rw [clauses, hnone]
  rfl

theorem HoldsNoClause.repeats (h : HoldsNoClause again) (text : String) : Repeats again text := by
  unfold Repeats
  rw [h.clauses_eq_nil]
  exact nofun

namespace Constraint

theorem parseAll_append (a b : String) : parseAll (a ++ ";" ++ b) = do
    let first ← parseAll a
    let second ← parseAll b
    return first ++ second := by
  rw [parseAll, clauses_append, List.mapM_append]
  rfl

theorem parseAll_append_eq_ok_iff {cs : List Constraint} :
    parseAll (a ++ ";" ++ b) = .ok cs ↔
      ∃ first second, parseAll a = .ok first ∧ parseAll b = .ok second ∧
        cs = first ++ second := by
  simp only [parseAll_append, bind_eq_ok_iff, pure, Except.pure, ok_eq_ok_iff]
  exact exists_congr fun first =>
    ⟨fun ⟨hfirst, second, hsecond, hcs⟩ => ⟨second, hfirst, hsecond, hcs⟩,
    fun ⟨second, hfirst, hsecond, hcs⟩ => ⟨hfirst, second, hsecond, hcs⟩⟩

theorem parseAll_append_eq_error_iff {e : CompileError} : parseAll (a ++ ";" ++ b) = .error e ↔
    parseAll a = .error e ∨ (∃ first, parseAll a = .ok first) ∧ parseAll b = .error e := by
  simp only [parseAll_append, bind_eq_error_iff, pure, Except.pure, reduceCtorEq, and_false,
    exists_false, or_false, exists_and_right]

theorem isCompiled_of_parseAll {cs : List Constraint} (h : parseAll text = .ok cs) :
    ∀ c ∈ cs, c.IsCompiled := by
  intro c hc
  obtain ⟨clause, -, hclause⟩ := exists_mem_of_mapM_eq_ok h c hc
  exact ⟨clause, hclause⟩

theorem IsCompiled.eval_eq_of_beq {c c' : Constraint} (h : c.IsCompiled) (h' : c'.IsCompiled)
    (heq : (c == c') = true) (d : Date) : c.eval d = c'.eval d := by
  obtain ⟨clause, hclause⟩ := h
  obtain ⟨clause', hclause'⟩ := h'
  exact Constraint.eval_eq_of_beq hclause hclause' heq d

end Constraint

theorem Repeats.parseAll (h : Repeats again text) {cs : List Constraint}
    (hcs : Constraint.parseAll text = .ok cs) :
    ∃ ds, Constraint.parseAll again = .ok ds ∧ ∀ c ∈ ds, cs.contains c = true := by
  refine exists_mapM_eq_ok fun clause hclause => ?_
  obtain ⟨earlier, hearlier, hsame⟩ := h clause hclause
  obtain ⟨c, hc, hparse⟩ := exists_eq_ok_of_mapM_eq_ok hcs earlier hearlier
  obtain ⟨c', hc', heq⟩ := hsame c hparse
  exact ⟨c', hc', contains_iff_exists_key.mpr ⟨c, hc, (Constraint.beq_iff_key.mp heq).symm⟩⟩

namespace Rule

theorem allHold_append (d : Date) (cs ds : List Constraint) :
    allHold d (cs ++ ds) = (allHold d cs >>= fun b => if b then allHold d ds else .ok false) := by
  induction cs with
  | nil => rfl
  | cons c cs ih =>
    rw [List.cons_append, allHold, allHold, ih]
    cases c.eval d with
    | error e => rfl
    | ok b => cases b <;> rfl

theorem allHold_eq_ok_true_iff {cs : List Constraint} :
    allHold d cs = .ok true ↔ ∀ c ∈ cs, c.eval d = .ok true := by
  induction cs with
  | nil => simp [allHold]
  | cons c cs ih =>
    rw [allHold, List.forall_mem_cons, ← ih]
    cases c.eval d with
    | error e => simp [bind, Except.bind]
    | ok b => cases b <;> simp [bind, Except.bind, pure, Except.pure]

/-- A repeated constraint is reached only where the first one held, and holds there as well. -/
theorem allHold_eraseDups {cs : List Constraint} (h : ∀ c ∈ cs, c.IsCompiled) :
    allHold d cs.eraseDups = allHold d cs := by
  induction cs using List.reverseRecOn with
  | nil => rfl
  | append_singleton cs c ih =>
    obtain ⟨hcs, hc⟩ := List.forall_mem_append.mp h
    rw [eraseDups_concat, allHold_append]
    split
    · rename_i hold
      rw [ih hcs]
      cases hall : allHold d cs with
      | error e => rfl
      | ok b =>
        cases b with
        | false => rfl
        | true =>
          obtain ⟨c', hc', hkey⟩ := contains_iff_exists_key.mp hold
          have hholds : c'.eval d = .ok true := allHold_eq_ok_true_iff.mp hall c' hc'
          have hsame := (hc c (List.mem_singleton_self c)).eval_eq_of_beq (hcs c' hc')
            (Constraint.beq_iff_key.mpr hkey.symm) d
          exact (allHold_eq_ok_true_iff.mpr
            (List.forall_mem_singleton.mpr (hsame.trans hholds))).symm
    · rw [allHold_append, ih hcs]

theorem matches_ofConstraints {cs : List Constraint} (h : ∀ c ∈ cs, c.IsCompiled) :
    (ofConstraints cs negate name).matches? d = (· ^^ negate) <$> allHold d cs := by
  unfold matches? ofConstraints
  rw [allHold_eraseDups h]
  rfl

theorem parse_eq_ok_iff {r : Rule} : Rule.parse text negate name = .ok r ↔
    ∃ cs, Constraint.parseAll text = .ok cs ∧ r = ofConstraints cs negate name := by
  unfold Rule.parse
  rw [bind_eq_ok_iff]
  exact exists_congr fun cs => and_congr_right fun _ => ok_eq_ok_iff

theorem exists_parse_iff : (∃ r, Rule.parse text negate name = .ok r) ↔
    ∃ cs, Constraint.parseAll text = .ok cs := by
  simp only [parse_eq_ok_iff]
  exact ⟨fun ⟨_, cs, hcs, _⟩ => ⟨cs, hcs⟩, fun ⟨cs, hcs⟩ => ⟨_, cs, hcs, rfl⟩⟩

theorem parse_eq_error_iff {e : CompileError} :
    Rule.parse text negate name = .error e ↔ Constraint.parseAll text = .error e := by
  unfold Rule.parse
  rw [bind_eq_error_iff]
  exact or_iff_left fun ⟨cs, _, hdone⟩ => nomatch hdone

theorem ofConstraints_append_repeated {cs ds : List Constraint} (h : ∀ c ∈ ds, cs.contains c = true)
    (es : List Constraint) (negate : Bool) (name : String) :
    ofConstraints (cs ++ ds ++ es) negate name = ofConstraints (cs ++ es) negate name := by
  unfold ofConstraints
  rw [← eraseDups_eraseDups_append, eraseDups_append_of_contains h, eraseDups_eraseDups_append]

theorem parse_append_repeated (h : Repeats again text) :
    Rule.parse (text ++ ";" ++ again) negate name = Rule.parse text negate name := by
  unfold Rule.parse
  rw [Constraint.parseAll_append]
  cases hcs : Constraint.parseAll text with
  | error e => rfl
  | ok cs =>
    obtain ⟨ds, hds, hcontains⟩ := h.parseAll hcs
    have hrule := ofConstraints_append_repeated hcontains [] negate name
    rw [List.append_nil, List.append_nil] at hrule
    rw [hds]
    exact congrArg Except.ok hrule

theorem parse_repeated_between (h : Repeats again text) (behind : String) :
    Rule.parse (text ++ ";" ++ again ++ ";" ++ behind) negate name =
      Rule.parse (text ++ ";" ++ behind) negate name := by
  unfold Rule.parse
  rw [Constraint.parseAll_append, Constraint.parseAll_append, Constraint.parseAll_append]
  cases hcs : Constraint.parseAll text with
  | error e => rfl
  | ok cs =>
    obtain ⟨ds, hds, hcontains⟩ := h.parseAll hcs
    rw [hds]
    cases Constraint.parseAll behind with
    | error e => rfl
    | ok es => exact congrArg Except.ok (ofConstraints_append_repeated hcontains es negate name)

theorem parse_behind_no_clause (h : HoldsNoClause again) :
    Rule.parse (again ++ ";" ++ text) negate name = Rule.parse text negate name := by
  unfold Rule.parse Constraint.parseAll
  rw [clauses_append, h.clauses_eq_nil, List.nil_append]

theorem matches_append {cs ds : List Constraint} (hcs : ∀ c ∈ cs, c.IsCompiled)
    (hds : ∀ c ∈ ds, c.IsCompiled) (d : Date) :
    (ofConstraints (cs ++ ds) false name).matches? d =
      match (ofConstraints cs false name).matches? d with
      | .error e => .error e
      | .ok false => .ok false
      | .ok true => (ofConstraints ds false name).matches? d := by
  rw [matches_ofConstraints (List.forall_mem_append.mpr ⟨hcs, hds⟩), matches_ofConstraints hcs,
    matches_ofConstraints hds, allHold_append]
  cases allHold d cs with
  | error e => rfl
  | ok b => cases b <;> rfl

/-- Two texts that are put together compile when both do, and the first one's error comes first. The
rule has on every date the outcome of the first, and where that one holds the outcome of the second.
A rule has the outcome of all clauses in their order, the repeated ones included, so it makes no
difference to leave these out, or to leave out clauses with nothing in them. -/
theorem joined_texts_are_a_conjunction (a b name : String) (negate : Bool) :
    ((∃ t, Rule.parse (a ++ ";" ++ b) negate name = .ok t) ↔
      (∃ r, Rule.parse a negate name = .ok r) ∧ ∃ s, Rule.parse b negate name = .ok s) ∧
    (∀ e, Rule.parse (a ++ ";" ++ b) negate name = .error e ↔
      Rule.parse a negate name = .error e ∨
        (∃ r, Rule.parse a negate name = .ok r) ∧ Rule.parse b negate name = .error e) ∧
    (∀ t r s, Rule.parse (a ++ ";" ++ b) false name = .ok t → Rule.parse a false name = .ok r →
      Rule.parse b false name = .ok s → ∀ d : Date, t.matches? d = match r.matches? d with
        | .error e => .error e
        | .ok false => .ok false
        | .ok true => s.matches? d) ∧
    (∀ r, Rule.parse a negate name = .ok r →
      ∃ written, (clauses a).mapM Constraint.parse = .ok written ∧
        ∀ d : Date, r.matches? d = (· ^^ negate) <$> allHold d written) ∧
    (∀ again, Repeats again a ∨ HoldsNoClause again →
      Rule.parse (a ++ ";" ++ again) negate name = Rule.parse a negate name ∧
      Rule.parse (a ++ ";" ++ again ++ ";" ++ b) negate name =
        Rule.parse (a ++ ";" ++ b) negate name) ∧
    ∀ nothing, HoldsNoClause nothing →
      Rule.parse (nothing ++ ";" ++ a) negate name = Rule.parse a negate name := by
  refine ⟨?_, fun e => ?_, fun t r s ht hr hs d => ?_, fun r hr => ?_, fun again hagain => ?_,
    fun nothing hnothing => parse_behind_no_clause hnothing⟩
  · simp only [exists_parse_iff, Constraint.parseAll_append_eq_ok_iff]
    constructor
    · rintro ⟨-, first, second, hfirst, hsecond, -⟩
      exact ⟨⟨first, hfirst⟩, second, hsecond⟩
    · rintro ⟨⟨first, hfirst⟩, second, hsecond⟩
      exact ⟨_, first, second, hfirst, hsecond, rfl⟩
  · simp only [parse_eq_error_iff, exists_parse_iff, Constraint.parseAll_append_eq_error_iff]
  · obtain ⟨cs, hcs, rfl⟩ := parse_eq_ok_iff.mp ht
    obtain ⟨first, hfirst, rfl⟩ := parse_eq_ok_iff.mp hr
    obtain ⟨second, hsecond, rfl⟩ := parse_eq_ok_iff.mp hs
    obtain ⟨first', second', hfirst', hsecond', rfl⟩ := Constraint.parseAll_append_eq_ok_iff.mp hcs
    cases hfirst.symm.trans hfirst'
    cases hsecond.symm.trans hsecond'
    exact matches_append (Constraint.isCompiled_of_parseAll hfirst)
      (Constraint.isCompiled_of_parseAll hsecond) d
  · obtain ⟨cs, hcs, rfl⟩ := parse_eq_ok_iff.mp hr
    exact ⟨cs, hcs, fun d => matches_ofConstraints (Constraint.isCompiled_of_parseAll hcs)⟩
  · have hrepeats : Repeats again a := hagain.elim id fun hnone => hnone.repeats a
    exact ⟨parse_append_repeated hrepeats, parse_repeated_between hrepeats b⟩

/-- Both texts ask for Easter behind a guard, in two spellings and with an empty clause between
them. -/
theorem joined_texts_on_an_Easter_before_2100 :
    let a := " year <= 2099 ;; Date == Easter"
    let b := "DATE==easter;day > 3"
    let again := "Year<= 2099; ;date == EASTER"
    Repeats again a ∧
      (∃ t r s, Rule.parse (a ++ ";" ++ b) false "" = .ok t ∧ Rule.parse a false "" = .ok r ∧
        Rule.parse b false "" = .ok s ∧ t.constraints.length = 3 ∧
        ∀ d : Date, t.matches? d = match r.matches? d with
          | .error e => .error e
          | .ok false => .ok false
          | .ok true => s.matches? d) ∧
      Rule.parse (a ++ ";" ++ again ++ ";" ++ b) false "" =
        Rule.parse (a ++ ";" ++ b) false "" := by
  intro a b again
  obtain ⟨hcompiles, -, houtcome, -, hrepeated, -⟩ := joined_texts_are_a_conjunction a b "" false
  have hrepeats : Repeats again a := by decide +kernel
  obtain ⟨t, ht, hlength⟩ : ∃ t, Rule.parse (a ++ ";" ++ b) false "" = .ok t ∧
      (t.constraints.length == 3) = true := exists_ok_of_any (by decide +kernel)
  obtain ⟨⟨r, hr⟩, s, hs⟩ := hcompiles.mp ⟨t, ht⟩
  exact ⟨hrepeats, ⟨t, r, s, ht, hr, hs, eq_of_beq hlength, houtcome t r s ht hr hs⟩,
    (hrepeated again (.inl hrepeats)).2⟩

end Rule
end DateRules
