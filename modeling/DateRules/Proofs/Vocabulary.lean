import DateRules.Operator
import DateRules.Proofs.Text.NoLetter

/-!
Names are words of small letters, symbols of operators are short words without any, and each is
found by its own.
-/
namespace DateRules

theorem find?_eq_some_iff_of_injective {α β : Type} [BEq β] [LawfulBEq β] {l : List α} {f : α → β}
    (hmem : ∀ a, a ∈ l) (hinjective : ∀ a b, f a = f b → a = b) {k : β} {a : α} :
    l.find? (fun a => f a == k) = some a ↔ f a = k := by
  constructor
  · intro h
    exact beq_iff_eq.mp (List.find?_some (p := fun a => f a == k) h)
  · intro h
    cases hfind : l.find? fun a => f a == k with
    | none =>
      have hnone := List.find?_eq_none.mp hfind a (hmem a)
      exact absurd (beq_iff_eq.mpr h) hnone
    | some b =>
      have hb : f b = k := beq_iff_eq.mp (List.find?_some (p := fun a => f a == k) hfind)
      rw [hinjective b a (hb.trans h.symm)]

theorem Quantity.isLower_name (q : Quantity) : ∀ l ∈ q.name.toList, l.isLower = true := by
  rw [← List.all_eq_true]
  cases q <;> decide

theorem Weekday.isLower_name (w : Weekday) : ∀ l ∈ w.name.toList, l.isLower = true := by
  rw [← List.all_eq_true]
  cases w <;> decide

theorem Quantity.name_ne_weekday (q : Quantity) (w : Weekday) : q.name.toList ≠ w.name.toList := by
  cases q <;> cases w <;> decide

theorem Quantity.ofName?_eq_some_iff {cs : List Char} {q : Quantity} :
    ofName? cs = some q ↔ nameKey cs = q.name.toList := by
  rw [eq_comm (a := nameKey cs)]
  refine find?_eq_some_iff_of_injective (fun q => by cases q <;> decide) fun q r h => ?_
  revert h
  cases q <;> cases r <;> decide

theorem Weekday.ofName?_eq_some_iff {cs : List Char} {w : Weekday} :
    ofName? cs = some w ↔ nameKey cs = w.name.toList := by
  rw [eq_comm (a := nameKey cs)]
  refine find?_eq_some_iff_of_injective (fun w => by cases w <;> decide) fun w x h => ?_
  revert h
  cases w <;> cases x <;> decide

theorem Quantity.isWord {cs : List Char} {q : Quantity} (h : Text.lower cs = q.name.toList) :
    Text.IsWord cs :=
  Text.isWord_of_lower h (by cases q <;> decide) q.isLower_name

theorem Weekday.isWord {cs : List Char} {w : Weekday} (h : Text.lower cs = w.name.toList) :
    Text.IsWord cs :=
  Text.isWord_of_lower h (by cases w <;> decide) w.isLower_name

/-- A name holds letters only. -/
theorem ofName?_eq_none_of_mem {cs : List Char} (h : Text.Trimmed cs) {c : Char} (hmem : c ∈ cs)
    (hc : Text.IsNoLetter c) : Quantity.ofName? cs = none ∧ Weekday.ofName? cs = none := by
  have hkey : nameKey cs = Text.lower cs := by rw [nameKey, Text.trim_of_trimmed h]
  constructor
  · rw [Option.eq_none_iff_forall_ne_some]
    intro q hq
    rw [Quantity.ofName?_eq_some_iff, hkey] at hq
    exact (Quantity.isWord hq).2 c hmem hc
  · rw [Option.eq_none_iff_forall_ne_some]
    intro w hw
    rw [Weekday.ofName?_eq_some_iff, hkey] at hw
    exact (Weekday.isWord hw).2 c hmem hc

theorem Weekday.ofName?_eq_none_of_quantity {cs : List Char} {q : Quantity}
    (h : Quantity.ofName? cs = some q) : ofName? cs = none := by
  rw [Option.eq_none_iff_forall_ne_some]
  intro w hw
  rw [Quantity.ofName?_eq_some_iff] at h
  rw [ofName?_eq_some_iff, h] at hw
  exact q.name_ne_weekday w hw

theorem Comparison.ofSymbol?_eq_some_iff {cs : List Char} {op : Comparison} :
    ofSymbol? cs = some op ↔ op.symbol.toList = cs := by
  refine find?_eq_some_iff_of_injective (fun op => by cases op <;> decide) fun op other h => ?_
  revert h
  cases op <;> cases other <;> decide

theorem Arithmetic.ofSymbol?_eq_some_iff {cs : List Char} {op : Arithmetic} :
    ofSymbol? cs = some op ↔ op.symbol.toList = cs := by
  refine find?_eq_some_iff_of_injective (fun op => by cases op <;> decide) fun op other h => ?_
  revert h
  cases op <;> cases other <;> decide

end DateRules
