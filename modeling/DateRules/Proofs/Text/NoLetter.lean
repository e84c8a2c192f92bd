import DateRules.Proofs.Text.Trim
import DateRules.Text.Case
import DateRules.Text.Digit

/-!
Characters that are no letters: lower case leaves them where they are, and a text that reads as
small letters in lower case holds none of them. Blanks and the decimal digits of all scripts are
such.
-/
namespace DateRules.Text

/-- Lower case keeps the character, and it is no small letter itself. -/
structure IsNoLetter (c : Char) : Prop where
  kept : lowercaseMapping.apply c = [c]
  no_sigma : c ≠ 'Σ'
  no_lower : c.isLower = false

theorem mem_lowerFrom {c : Char} (h : IsNoLetter c) (before : List Char) {cs : List Char}
    (hmem : c ∈ cs) : c ∈ lowerFrom before cs := by
  induction cs generalizing before with
  | nil => cases hmem
  | cons d cs ih =>
    rw [lowerFrom, List.mem_append]
    rcases List.mem_cons.mp hmem with rfl | htail
    · left
      rw [if_neg h.no_sigma, h.kept]
      exact List.mem_singleton_self c
    · exact .inr (ih _ htail)

theorem not_mem_of_lower_isLower {c : Char} {cs : List Char} (h : IsNoLetter c)
    (hlower : ∀ l ∈ lower cs, l.isLower = true) : c ∉ cs := by
  intro hmem
  have := hlower c (mem_lowerFrom h [] hmem)
  rw [h.no_lower] at this
  cases this

/-- Letters only, and at least one. -/
def IsWord (cs : List Char) : Prop := cs ≠ [] ∧ ∀ c ∈ cs, ¬IsNoLetter c

theorem isWord_of_lower {cs name : List Char} (h : lower cs = name) (hne : name ≠ [])
    (hlower : ∀ l ∈ name, l.isLower = true) : IsWord cs := by
  subst h
  refine ⟨?_, fun c hmem hc => not_mem_of_lower_isLower hc hlower hmem⟩
  rintro rfl
  exact hne rfl

theorem contains_iff {rs : CharacterRanges} {c : Char} :
    rs.contains c = true ↔ ∃ r ∈ rs, r.1 ≤ c.toNat ∧ c.toNat ≤ r.2 := by
  simp [CharacterRanges.contains]

/-- No range of one set meets one of the other. -/
def CharacterRanges.isApart (rs ss : CharacterRanges) : Bool :=
  rs.all fun r => ss.all fun s => Nat.blt r.2 s.1 || Nat.blt s.2 r.1

theorem CharacterRanges.not_contains {rs ss : CharacterRanges} (h : rs.isApart ss = true) {c : Char}
    (hc : rs.contains c = true) : ss.contains c = false := by
  rw [Bool.eq_false_iff]
  intro hcontains
  obtain ⟨r, hr, hfrom, hto⟩ := contains_iff.mp hc
  obtain ⟨s, hs, hfrom', hto'⟩ := contains_iff.mp hcontains
  have hapart := List.all_eq_true.mp (List.all_eq_true.mp h r hr) s hs
  simp only [Bool.or_eq_true, Nat.blt_eq] at hapart
  omega

/-- A character is named by an expansion, lies in a run, or stays. -/
theorem CaseMapping.apply_cases (m : CaseMapping) (c : Char) :
    (∃ ns, (c.toNat, ns) ∈ m.expansions ∧ m.apply c = ns.map Char.ofNat) ∨
    (∃ run ∈ m.runs, (run.first ≤ c.toNat ∧ c.toNat ≤ run.last) ∧
      m.apply c = [Char.ofNat (c.toNat + run.shift).toNat]) ∨
    m.apply c = [c] := by
  unfold apply
  cases hexpansion : m.expansion? c.toNat with
  | some ns =>
    obtain ⟨before, behind, heq, -⟩ := List.lookup_eq_some_iff.mp hexpansion
    refine .inl ⟨ns, (List.takeWhile_sublist fun e => e.1 ≤ c.toNat).subset ?_, rfl⟩
    rw [heq]
    simp
  | none =>
    cases hrun : m.run? c.toNat with
    | some run =>
      have hmem := (List.takeWhile_sublist _).subset (List.mem_of_find?_eq_some hrun)
      have hcontains := List.find?_some hrun
      simp only [CaseRun.contains, Bool.and_eq_true, decide_eq_true_eq] at hcontains
      exact .inr (.inl ⟨run, hmem, hcontains.1, rfl⟩)
    | none => exact .inr (.inr rfl)

/-- The characters that the mapping moves, and those between them in its runs. -/
def CaseMapping.sources (m : CaseMapping) : CharacterRanges :=
  m.runs.map (fun run => (run.first, run.last)) ++ m.expansions.map fun e => (e.1, e.1)

/-- The characters that those of a run become. -/
def CaseRun.image (run : CaseRun) : Nat × Nat :=
  ((run.first + run.shift).toNat, (run.last + run.shift).toNat)

theorem CaseMapping.apply_of_not_source {m : CaseMapping} {c : Char}
    (h : m.sources.contains c = false) : m.apply c = [c] := by
  rw [Bool.eq_false_iff] at h
  rcases m.apply_cases c with ⟨ns, hmem, -⟩ | ⟨run, hmem, hrange, -⟩ | happly
  · refine absurd (contains_iff.mpr ⟨(c.toNat, c.toNat), ?_, Nat.le_refl _, Nat.le_refl _⟩) h
    exact List.mem_append_right _ (List.mem_map.mpr ⟨_, hmem, rfl⟩)
  · refine absurd (contains_iff.mpr ⟨(run.first, run.last), ?_, hrange⟩) h
    exact List.mem_append_left _ (List.mem_map.mpr ⟨run, hmem, rfl⟩)
  · exact happly

def blankRanges : CharacterRanges :=
  [(0x09, 0x0D), (0x1C, 0x20), (0x85, 0x85), (0xA0, 0xA0), (0x1680, 0x1680), (0x2000, 0x200A),
    (0x2028, 0x2029), (0x202F, 0x202F), (0x205F, 0x205F), (0x3000, 0x3000)]

def decimalRanges : CharacterRanges := decimalZeros.map fun z => (z, z + 9)

/-- In ASCII the letters come last. -/
def caselessRanges : CharacterRanges := (0, 'A'.toNat - 1) :: (blankRanges ++ decimalRanges)

/-- The mappings move no character without case, and the lower case of a character is none. -/
theorem caselessRanges_check :
    caselessRanges.isApart lowercaseMapping.sources = true ∧
    caselessRanges.isApart caseFoldMapping.sources = true ∧
    caselessRanges.isApart (lowercaseMapping.runs.map CaseRun.image) = true ∧
    caselessRanges.isApart [('a'.toNat, 'z'.toNat)] = true ∧
    decimalRanges.isApart blankRanges = true := by
  decide +kernel

/-- ASCII up to the letters, blanks and decimal digits. -/
def isCaseless (c : Char) : Bool := c.toNat < 'A'.toNat || isBlank c || isDecimal c

section
variable {c : Char}

theorem isLower_iff : c.isLower = true ↔ 'a'.toNat ≤ c.toNat ∧ c.toNat ≤ 'z'.toNat := by
  change (decide (c.val ≥ 'a'.val) && decide (c.val ≤ 'z'.val)) = true ↔ _
  simp only [Bool.and_eq_true, decide_eq_true_eq, ge_iff_le, UInt32.le_iff_toNat_le]
  exact Iff.rfl

theorem isUpper_iff : c.isUpper = true ↔ 'A'.toNat ≤ c.toNat ∧ c.toNat ≤ 'Z'.toNat := by
  change decide (c.val ≥ 'A'.val ∧ c.val ≤ 'Z'.val) = true ↔ _
  simp only [decide_eq_true_eq, ge_iff_le, UInt32.le_iff_toNat_le]
  exact Iff.rfl

theorem contains_blankRanges (h : isBlank c = true) : blankRanges.contains c = true := by
  simp only [isBlank, Bool.or_eq_true, Bool.and_eq_true, decide_eq_true_eq, beq_iff_eq] at h
  simp only [CharacterRanges.contains, blankRanges, List.any_cons, List.any_nil, Bool.or_eq_true,
    Bool.and_eq_true, decide_eq_true_eq]
  omega

theorem contains_decimalRanges (h : isDecimal c = true) : decimalRanges.contains c = true := by
  unfold isDecimal decimalValue? at h
  rw [Option.isSome_map, List.find?_isSome] at h
  obtain ⟨z, hz, hrange⟩ := h
  simp only [Bool.and_eq_true, decide_eq_true_eq] at hrange
  refine contains_iff.mpr ⟨(z, z + 9), List.mem_map.mpr ⟨z, hz, rfl⟩, hrange.1, ?_⟩
  dsimp only
  omega

theorem isCaseless_iff : isCaseless c = true ↔
    c.toNat < 'A'.toNat ∨ isBlank c = true ∨ isDecimal c = true := by
  simp only [isCaseless, Bool.or_eq_true, decide_eq_true_eq, or_assoc]

theorem contains_caselessRanges (h : isCaseless c = true) : caselessRanges.contains c = true := by
  rcases isCaseless_iff.mp h with hlow | hblank | hdecimal
  · exact contains_iff.mpr ⟨_, List.mem_cons_self, Nat.zero_le _, Nat.le_sub_one_of_lt hlow⟩
  · obtain ⟨r, hr, hrange⟩ := contains_iff.mp (contains_blankRanges hblank)
    exact contains_iff.mpr ⟨r, List.mem_cons_of_mem _ (List.mem_append_left _ hr), hrange⟩
  · obtain ⟨r, hr, hrange⟩ := contains_iff.mp (contains_decimalRanges hdecimal)
    exact contains_iff.mpr ⟨r, List.mem_cons_of_mem _ (List.mem_append_right _ hr), hrange⟩

theorem isNoLetter_of_isCaseless (h : isCaseless c = true) : IsNoLetter c := by
  obtain ⟨hsources, -, -, hsmall, -⟩ := caselessRanges_check
  have hranges := contains_caselessRanges h
  refine ⟨CaseMapping.apply_of_not_source (CharacterRanges.not_contains hsources hranges), ?_, ?_⟩
  · rintro rfl
    exact absurd h (by decide)
  · rw [Bool.eq_false_iff]
    intro hlower
    have hnot := CharacterRanges.not_contains hsmall hranges
    rw [contains_iff.mpr ⟨_, List.mem_singleton_self _, isLower_iff.mp hlower⟩] at hnot
    cases hnot

theorem isNoLetter_of_lt (h : c.toNat < 'A'.toNat) : IsNoLetter c :=
  isNoLetter_of_isCaseless (isCaseless_iff.mpr (.inl h))

theorem isNoLetter_of_isBlank (h : isBlank c = true) : IsNoLetter c :=
  isNoLetter_of_isCaseless (isCaseless_iff.mpr (.inr (.inl h)))

theorem isNoLetter_of_isDecimal (h : isDecimal c = true) : IsNoLetter c :=
  isNoLetter_of_isCaseless (isCaseless_iff.mpr (.inr (.inr h)))

theorem not_isBlank_of_isDecimal (h : isDecimal c = true) : isBlank c = false := by
  obtain ⟨-, -, -, -, hapart⟩ := caselessRanges_check
  have hnot := CharacterRanges.not_contains hapart (contains_decimalRanges h)
  rw [Bool.eq_false_iff]
  intro hblank
  rw [contains_blankRanges hblank] at hnot
  cases hnot

theorem not_isDecimal_of_isBlank (h : isBlank c = true) : isDecimal c = false := by
  rw [Bool.eq_false_iff]
  intro hdecimal
  rw [not_isBlank_of_isDecimal hdecimal] at h
  cases h

end

theorem IsWord.trimmed {cs : List Char} (h : IsWord cs) : Trimmed cs where
  head c hc := by
    rw [Bool.eq_false_iff]
    exact fun hblank => h.2 c (List.mem_of_mem_head? hc) (isNoLetter_of_isBlank hblank)
  last c hc := by
    rw [Bool.eq_false_iff]
    exact fun hblank => h.2 c (List.mem_of_mem_getLast? hc) (isNoLetter_of_isBlank hblank)

end DateRules.Text
