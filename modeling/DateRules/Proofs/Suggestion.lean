import Mathlib.Data.List.MinMax
import Mathlib.Order.Lattice.Nat
import DateRules.Proofs.Operand.Compile
import DateRules.Proofs.Text.Similarity

/-!
A misspelt name is answered with the first of the known names that are most like it, if that one is
like it enough. A message points to no other name, and never to the one that was written.
-/
namespace DateRules

open Text (Similarity Trimmed)

/-- Hundredths of the characters that a longest common subsequence of the term and the name covers.
The letter case of the term does not matter. -/
noncomputable def nameScore (term : List Char) (name : String) : ℚ :=
  100 * (2 * (sSup (Text.commonLengths (Text.lower term) name.toList) : ℕ)) /
    ((Text.lower term).length + name.length)

theorem toList_ne_nil_of_mem_knownNames : ∀ name ∈ knownNames, name.toList ≠ [] := by decide +kernel

theorem quote_notMem_of_mem_knownNames : ∀ name ∈ knownNames, '\'' ∉ name.toList := by
  decide +kernel

section
variable {term : List Char} {name other : String}

theorem nameScore_eq_share (h : name.toList ≠ []) :
    nameScore term name = 100 * (Similarity.between (Text.lower term) name.toList).share := by
  rw [nameScore, (Text.isGreatest_commonLength _ _).csSup_eq, Similarity.share_between _ h,
    mul_div_assoc, String.length_toList]

theorem isBelow_iff_nameScore_lt (hname : name.toList ≠ []) (hother : other.toList ≠ []) :
    (Similarity.between (Text.lower term) name.toList).isBelow
      (Similarity.between (Text.lower term) other.toList) = true ↔
        nameScore term name < nameScore term other := by
  rw [Similarity.isBelow_iff (Similarity.total_between_pos _ hname)
    (Similarity.total_between_pos _ hother), nameScore_eq_share hname, nameScore_eq_share hother,
    mul_lt_mul_iff_of_pos_left (by norm_num)]

theorem reaches_suggestionThreshold_iff (h : name.toList ≠ []) :
    (Similarity.between (Text.lower term) name.toList).reaches suggestionThreshold = true ↔
      75 ≤ nameScore term name := by
  rw [suggestionThreshold, Similarity.reaches_whole_iff (Similarity.total_between_pos _ h)
    (by decide +kernel), nameScore_eq_share h]
  norm_cast

theorem mostSimilar?_eq_argmax (term : List Char) {names : List String}
    (h : ∀ name ∈ names, name.toList ≠ []) : mostSimilar? (Text.lower term) names =
      (names.argmax (nameScore term)).map fun name =>
        (name, Similarity.between (Text.lower term) name.toList) := by
  induction names with
  | nil => rfl
  | cons name names ih =>
    obtain ⟨hname, hnames⟩ := List.forall_mem_cons.mp h
    rw [mostSimilar?, ih hnames, List.argmax_cons]
    cases hbest : names.argmax (nameScore term) with
    | none => rfl
    | some best =>
      have hbelow := @isBelow_iff_nameScore_lt term _ _ hname (hnames best (List.argmax_mem hbest))
      dsimp only [Option.map]
      by_cases hlt : nameScore term name < nameScore term best
      · rw [if_pos (hbelow.mpr hlt), if_pos hlt]
      · rw [if_neg (mt hbelow.mp hlt), if_neg hlt]

theorem suggestName?_eq_some_iff {threshold : Text.Threshold} :
    suggestName? term threshold = some name ↔
      term ≠ [] ∧ name ∈ knownNames.argmax (nameScore term) ∧
      (Similarity.between (Text.lower term) name.toList).reaches threshold = true := by
  rw [suggestName?, mostSimilar?_eq_argmax term toList_ne_nil_of_mem_knownNames]
  cases knownNames.argmax (nameScore term) with
  | none => simp
  | some best =>
    simp only [Option.map_some, List.isEmpty_iff, Option.mem_some_iff]
    grind

theorem suggestName?_suggestionThreshold_eq_some_iff :
    suggestName? term suggestionThreshold = some name ↔
      term ≠ [] ∧ name ∈ knownNames.argmax (nameScore term) ∧ 75 ≤ nameScore term name := by
  rw [suggestName?_eq_some_iff]
  refine and_congr_right fun _ => and_congr_right fun hbest => reaches_suggestionThreshold_iff ?_
  exact toList_ne_nil_of_mem_knownNames name (List.argmax_mem hbest)

theorem suggestName?_suggestionThreshold : suggestName? term suggestionThreshold =
    if term = [] ∨ ∀ name ∈ knownNames, nameScore term name < 75 then none
    else knownNames.argmax (nameScore term) := by
  ext name
  rw [suggestName?_suggestionThreshold_eq_some_iff]
  split
  · rename_i hnone
    simp only [reduceCtorEq, iff_false, not_and, not_le]
    intro hterm hbest
    exact hnone.resolve_left hterm name (List.argmax_mem hbest)
  · rename_i hsome
    obtain ⟨hterm, hreached⟩ := not_or.mp hsome
    obtain ⟨other, hother, hscore⟩ : ∃ other ∈ knownNames, 75 ≤ nameScore term other := by
      simpa using hreached
    refine ⟨fun h => h.2.1, fun hbest => ⟨hterm, hbest, ?_⟩⟩
    exact hscore.trans (List.le_of_mem_argmax hother hbest)

end

namespace OperandFault

/-- The message ends by pointing to the name. There is no quote in a name. -/
def PointsTo (fault : OperandFault) (name : String) : Prop :=
  '\'' ∉ name.toList ∧ ∃ said, fault.message = said ++ s!" Did you mean '{name}'?"

theorem eq_of_append_cons_eq {α : Type} {a : α} {x y s t : List α} (hs : a ∉ s) (ht : a ∉ t)
    (h : x ++ a :: s = y ++ a :: t) : s = t := by
  rcases List.append_eq_append_iff.mp h with ⟨u, -, hu⟩ | ⟨u, -, hu⟩
  · cases u with
    | nil => exact (List.cons.inj hu).2
    | cons b u =>
      rw [(List.cons.inj hu).2] at hs
      exact absurd (by simp) hs
  · cases u with
    | nil => exact (List.cons.inj hu).2.symm
    | cons b u =>
      rw [(List.cons.inj hu).2] at ht
      exact absurd (by simp) ht

theorem getLast?_toList_append (front : String) {mark : String} {c : Char}
    (h : mark.toList.getLast? = some c) : (front ++ mark).toList.getLast? = some c := by
  rw [String.toList_append, List.getLast?_append, h, Option.some_or]

theorem getLast?_message {fault : OperandFault} (h : ∀ term text, fault ≠ .unknownName term text) :
    fault.message.toList.getLast? = some '.' ∨ fault.message.toList.getLast? = some ')' := by
  cases fault with
  | empty => exact .inl (show "Empty operand.".toList.getLast? = some '.' by decide)
  | numeralTooLong => exact .inl (by decide +kernel)
  | malformed => exact .inl (getLast?_toList_append _ (by decide +kernel))
  | offsetNotWhole | integerOnLeft =>
    exact .inl (getLast?_toList_append _ (getLast?_toList_append _ rfl))
  | noSuchDay | weekdayArithmetic | shiftedOutsideCalendar =>
    exact .inl (getLast?_toList_append _ rfl)
  | operator => exact .inr (getLast?_toList_append _ (getLast?_toList_append _ rfl))
  | unknownName term text => exact absurd rfl (h term text)

theorem getLast?_hint (front name : String) :
    (front ++ s!" Did you mean '{name}'?").toList.getLast? = some '?' :=
  getLast?_toList_append _ (getLast?_toList_append _ rfl)

theorem toList_hint (front name : String) : (front ++ s!" Did you mean '{name}'?").toList =
    (front.toList ++ " Did you mean ".toList ++ '\'' :: name.toList) ++ "'?".toList := by
  have hmark : " Did you mean '".toList = " Did you mean ".toList ++ ['\''] := by decide
  have hhint : s!" Did you mean '{name}'?".toList =
      " Did you mean '".toList ++ name.toList ++ "'?".toList := by
    rw [← String.toList_append, ← String.toList_append]
    rfl
  rw [String.toList_append, hhint, hmark]
  simp only [List.append_assoc, List.cons_append, List.nil_append]

/-- The name at the end of a message can be read off it. -/
theorem name_eq_of_hint_eq {front before name other : String} (hname : '\'' ∉ name.toList)
    (hother : '\'' ∉ other.toList)
    (h : front ++ s!" Did you mean '{name}'?" = before ++ s!" Did you mean '{other}'?") :
    name = other := by
  have hlists := congrArg String.toList h
  rw [toList_hint, toList_hint] at hlists
  exact String.toList_inj.mp (eq_of_append_cons_eq hname hother (List.append_cancel_right hlists))

theorem message_unknownName (term text : String) : (unknownName term text).message =
    s!"Unrecognised operand '{term}' in '{text}'." ++ suggestionHint term := rfl

theorem getLast?_unrecognised (term text : String) :
    s!"Unrecognised operand '{term}' in '{text}'.".toList.getLast? = some '.' :=
  getLast?_toList_append _ rfl

theorem suggestionHint_eq_empty {term : String}
    (h : suggestName? term.toList suggestionThreshold = none) : suggestionHint term = "" := by
  rw [suggestionHint, h]

theorem suggestionHint_eq {term name : String}
    (h : suggestName? term.toList suggestionThreshold = some name) :
    suggestionHint term = s!" Did you mean '{name}'?" := by
  rw [suggestionHint, h]

/-- Only an unknown name is answered by pointing to another. -/
theorem PointsTo.exists_unknownName {fault : OperandFault} {name : String}
    (h : fault.PointsTo name) :
    ∃ term text, fault = .unknownName term text ∧
      suggestName? term.toList suggestionThreshold = some name := by
  obtain ⟨hquote, said, hmessage⟩ := h
  have hlast : fault.message.toList.getLast? = some '?' := hmessage ▸ getLast?_hint said name
  by_cases hunknown : ∃ term text, fault = .unknownName term text
  · obtain ⟨term, text, rfl⟩ := hunknown
    refine ⟨term, text, rfl, ?_⟩
    rw [message_unknownName] at hmessage hlast
    cases hbest : suggestName? term.toList suggestionThreshold with
    | none =>
      rw [suggestionHint_eq_empty hbest, String.append_empty, getLast?_unrecognised] at hlast
      cases hlast
    | some best =>
      rw [suggestionHint_eq hbest] at hmessage
      have hmem := List.argmax_mem (suggestName?_eq_some_iff.mp hbest).2.1
      rw [name_eq_of_hint_eq hquote (quote_notMem_of_mem_knownNames best hmem) hmessage.symm]
  · rcases getLast?_message fun term text h => hunknown ⟨term, text, h⟩ with hend | hend <;>
      · rw [hend] at hlast
        cases hlast

end OperandFault

/-- The term is no name, whatever the case of its letters. -/
structure IsNoName (term : List Char) : Prop where
  trimmed : Trimmed term
  quantity : Quantity.ofName? term = none
  weekday : Weekday.ofName? term = none

theorem IsNoName.lower_ne {term : List Char} (h : IsNoName term) :
    ∀ name ∈ knownNames, Text.lower term ≠ name.toList := by
  intro name hname heq
  have hkey : nameKey term = name.toList := by rw [nameKey, Text.trim_of_trimmed h.trimmed, heq]
  rw [knownNames, List.mem_append, List.mem_map, List.mem_map] at hname
  rcases hname with ⟨q, -, rfl⟩ | ⟨w, -, rfl⟩
  · have hq := h.quantity
    rw [Quantity.ofName?_eq_some_iff.mpr hkey] at hq
    cases hq
  · have hw := h.weekday
    rw [Weekday.ofName?_eq_some_iff.mpr hkey] at hw
    cases hw

namespace Operand

variable {term whole : String}

theorem isNoName_of_ofName {s : List Char} (hs : Trimmed s)
    (h : ofName s = .error (.unknownName term whole)) : IsNoName term.toList := by
  unfold ofName at h
  split at h
  · cases h
  · cases h
  · rename_i hq hw
    cases h
    rw [String.toList_ofList]
    exact ⟨hs, hq, hw⟩

theorem ofName?_eq_none_of_namesWeekday {cs : List Char} (h : ¬namesWeekday cs = true) :
    Weekday.ofName? cs = none := by
  rw [namesWeekday, Bool.or_eq_true, not_or, Bool.not_eq_true, Option.isSome_eq_false_iff,
    Option.isNone_iff_eq_none] at h
  exact h.1

theorem ofName?_of_changedName {text : String} {left : List Char} {op : Arithmetic} {n : Int}
    (h : changedName text left op n = .error (.unknownName term whole)) :
    term.toList = left ∧ Quantity.ofName? left = none := by
  unfold changedName at h
  split at h
  · obtain ⟨fault, -, hfault⟩ := mapError_eq_error_iff.mp (map_eq_error_iff.mp h)
    cases hfault
  · rename_i hq
    split at h
    · cases h
    · cases h
      exact ⟨String.toList_ofList, hq⟩

theorem changedDate_ne_unknownName {text : String} {d : Date} {op : Arithmetic} {n : Int} :
    changedDate text d op n ≠ .error (.unknownName term whole) := by
  intro h
  unfold changedDate at h
  rcases bind_eq_error_iff.mp h with hchange | ⟨change, -, hmoved⟩
  · obtain ⟨fault, -, hfault⟩ := mapError_eq_error_iff.mp hchange
    cases hfault
  · split at hmoved <;> cases hmoved

theorem isNoName_of_ofArithmetic {text : String} {left right : List Char} {op : Arithmetic}
    (hleft : Trimmed left)
    (h : ofArithmetic text left op right = .error (.unknownName term whole)) :
    IsNoName term.toList := by
  unfold ofArithmetic at h
  split at h
  · cases h
  · rename_i hweekday
    split at h
    · cases h
    · rcases bind_eq_error_iff.mp h with hlong | ⟨offset, -, hread⟩
      · unfold numeralValue at hlong
        split at hlong <;> cases hlong
      · split at hread
        · cases hread
        · exact absurd hread changedDate_ne_unknownName
        · obtain ⟨hterm, hq⟩ := ofName?_of_changedName hread
          rw [hterm]
          rw [Bool.or_eq_true, not_or] at hweekday
          exact ⟨hleft, hq, ofName?_eq_none_of_namesWeekday hweekday.1⟩

theorem isNoName_of_ofTerms {s : List Char} (hs : Trimmed s)
    (h : ofTerms s = .error (.unknownName term whole)) : IsNoName term.toList := by
  unfold ofTerms at h
  split at h
  · exact isNoName_of_ofName hs h
  · dsimp only at h
    split at h
    · cases h
    · exact isNoName_of_ofArithmetic (Text.trimmed_trim _) h
  · cases h

/-- A term is unknown in two ways: as a whole operand, and as the left side of an operator. -/
theorem isNoName_of_parse {text : String} (h : parse text = .error (.unknownName term whole)) :
    IsNoName term.toList := by
  unfold parse ofChars at h
  dsimp only at h
  split at h
  · cases h
  · rcases bind_eq_error_iff.mp h with hread | ⟨expression, -, hdone⟩
    · unfold readExpression at hread
      split at hread
      · cases hread
      · cases hread
      · have hlong := map_eq_error_iff.mp hread
        unfold numeralValue at hlong
        split at hlong <;> cases hlong
      · exact isNoName_of_ofTerms (Text.trimmed_trim _) hread
    · cases hdone

end Operand

/-- The suggestion is the first of the names with the greatest score, from a score of 75 on. A
rejection that points to a name is one of a term that differs from it and scores at least that. -/
theorem suggestion_is_first_of_most_similar (term : List Char) :
    (suggestName? term suggestionThreshold =
        if term = [] ∨ ∀ name ∈ knownNames, nameScore term name < 75 then none
        else knownNames.argmax (nameScore term)) ∧
      (∀ threshold name, suggestName? term threshold = some name →
        name ∈ knownNames.argmax (nameScore term)) ∧
      ∀ text fault name, Operand.parse text = .error fault → fault.PointsTo name →
        ∃ rejected whole, fault = .unknownName rejected whole ∧ name ∈ knownNames ∧
          Text.lower rejected.toList ≠ name.toList ∧ 75 ≤ nameScore rejected.toList name := by
  refine ⟨suggestName?_suggestionThreshold, fun threshold name h =>
    (suggestName?_eq_some_iff.mp h).2.1, fun text fault name hparse hname => ?_⟩
  obtain ⟨rejected, whole, rfl, hsuggested⟩ := hname.exists_unknownName
  obtain ⟨-, hbest, hscore⟩ := suggestName?_suggestionThreshold_eq_some_iff.mp hsuggested
  have hknown := List.argmax_mem hbest
  exact ⟨rejected, whole, rfl, hknown, (Operand.isNoName_of_parse hparse).lower_ne name hknown,
    hscore⟩

/-- Thursday and Saturday are equally like it. -/
example : suggestName? "Turday".toList suggestionThreshold = some "thursday" := by decide +kernel

end DateRules
