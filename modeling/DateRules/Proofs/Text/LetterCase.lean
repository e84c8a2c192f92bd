import DateRules.Proofs.Text.NoLetter

/-!
Letter case in rule text. Names are written in Latin letters, or with the sign of the kelvin for a
k; lower case and case folding make the same small letter of each, and leave alone the characters
without case that stand around names. A text that lower case turns into such characters holds no
others.
-/
namespace DateRules.Text

theorem toNat_ofNat {n : Nat} (h : n.isValidChar) : (Char.ofNat n).toNat = n := by
  rw [Char.ofNat, dif_pos h]
  rfl

/-- The codes of a set, one by one. -/
def CharacterRanges.codes (rs : CharacterRanges) : List Nat :=
  rs.flatMap fun r => List.range' r.1 (r.2 + 1 - r.1)

theorem exists_code_of_contains {rs : CharacterRanges} {c : Char} (h : rs.contains c = true) :
    ∃ n ∈ rs.codes, c = Char.ofNat n := by
  obtain ⟨r, hr, hfrom, hto⟩ := contains_iff.mp h
  refine ⟨c.toNat, List.mem_flatMap.mpr ⟨r, hr, List.mem_range'_1.mpr ⟨hfrom, ?_⟩⟩,
    c.ofNat_toNat.symm⟩
  omega

/-- The letters that names are written with; the last one is the sign of the kelvin. -/
def nameLetterRanges : CharacterRanges :=
  [('A'.toNat, 'Z'.toNat), ('a'.toNat, 'z'.toNat), (0x212A, 0x212A)]

def isNameLetter (c : Char) : Bool := nameLetterRanges.contains c

def isRuleChar (c : Char) : Bool := isCaseless c || isNameLetter c

/-- The small letter of a letter that names are written with. -/
def small (c : Char) : Char := (lowercaseMapping.apply c).headD c

section
variable {c : Char}

theorem isCaseless_of_isBlank (h : isBlank c = true) : isCaseless c = true :=
  isCaseless_iff.mpr (.inr (.inl h))

theorem isRuleChar_iff : isRuleChar c = true ↔ isCaseless c = true ∨ isNameLetter c = true :=
  Bool.or_eq_true_iff

theorem small_of_isCaseless (h : isCaseless c = true) : small c = c := by
  rw [small, (isNoLetter_of_isCaseless h).kept]
  rfl

theorem apply_of_isNameLetter (h : isNameLetter c = true) :
    c ≠ 'Σ' ∧ lowercaseMapping.apply c = [small c] ∧ caseFoldMapping.apply c = [small c] ∧
      (small c).isLower = true := by
  have htable : ∀ n ∈ nameLetterRanges.codes, Char.ofNat n ≠ 'Σ' ∧
      lowercaseMapping.apply (Char.ofNat n) = [small (Char.ofNat n)] ∧
      caseFoldMapping.apply (Char.ofNat n) = [small (Char.ofNat n)] ∧
      (small (Char.ofNat n)).isLower = true := by decide +kernel
  obtain ⟨n, hn, rfl⟩ := exists_code_of_contains h
  exact htable n hn

/-- Lower case and case folding make one character of each, and the same one. -/
theorem apply_of_isRuleChar (h : isRuleChar c = true) :
    c ≠ 'Σ' ∧ lowercaseMapping.apply c = [small c] ∧ caseFoldMapping.apply c = [small c] := by
  rcases isRuleChar_iff.mp h with hcaseless | hletter
  · have hnone := isNoLetter_of_isCaseless hcaseless
    obtain ⟨-, hapart, -⟩ := caselessRanges_check
    have hout := CharacterRanges.not_contains hapart (contains_caselessRanges hcaseless)
    rw [small_of_isCaseless hcaseless]
    exact ⟨hnone.no_sigma, hnone.kept, CaseMapping.apply_of_not_source hout⟩
  · obtain ⟨hsigma, hlower, hfold, -⟩ := apply_of_isNameLetter hletter
    exact ⟨hsigma, hlower, hfold⟩

/-- A small letter is a letter that names are written with, and its own small letter. -/
theorem isRuleChar_small (h : isRuleChar c = true) :
    isRuleChar (small c) = true ∧ small (small c) = small c := by
  have htable : ∀ n ∈ nameLetterRanges.codes, isRuleChar (small (Char.ofNat n)) = true ∧
      small (small (Char.ofNat n)) = small (Char.ofNat n) := by decide +kernel
  rcases isRuleChar_iff.mp h with hcaseless | hletter
  · rw [small_of_isCaseless hcaseless]
    exact ⟨h, small_of_isCaseless hcaseless⟩
  · obtain ⟨n, hn, rfl⟩ := exists_code_of_contains hletter
    exact htable n hn

/-- A character without case is the small form of itself only. -/
theorem small_eq_self (h : isRuleChar c = true) (hsmall : isCaseless (small c) = true) :
    small c = c := by
  rcases isRuleChar_iff.mp h with hcaseless | hletter
  · exact small_of_isCaseless hcaseless
  · have hlower := (apply_of_isNameLetter hletter).2.2.2
    rw [(isNoLetter_of_isCaseless hsmall).no_lower] at hlower
    cases hlower

end

/-- A run becomes characters, and small Latin letters only if it is of letters of names. -/
structure CaseRun.IsPlain (run : CaseRun) : Prop where
  positive : 0 ≤ run.first + run.shift
  valid : run.image.2 < 0xD800 ∨ 0xDFFF < run.image.1 ∧ run.image.2 < 0x110000
  lower : run.image.2 < 'a'.toNat ∨ 'z'.toNat < run.image.1 ∨
    ∃ r ∈ nameLetterRanges, r.1 ≤ run.first ∧ run.last ≤ r.2

instance (run : CaseRun) : Decidable run.IsPlain :=
  decidable_of_iff ((0 : Int) ≤ run.first + run.shift ∧ _ ∧ _)
    ⟨fun ⟨hpositive, hvalid, hlower⟩ => ⟨hpositive, hvalid, hlower⟩,
      fun h => ⟨h.positive, h.valid, h.lower⟩⟩

/-- No expansion is written with small Latin letters and characters without case alone. -/
theorem lowercaseMapping_check : (∀ run ∈ lowercaseMapping.runs, run.IsPlain) ∧
    ∀ e ∈ lowercaseMapping.expansions, ∃ n ∈ e.2,
      isCaseless (Char.ofNat n) = false ∧ (Char.ofNat n).isLower = false := by
  decide +kernel

theorem CaseRun.IsPlain.toNat_image {run : CaseRun} (h : run.IsPlain) {c : Char}
    (hc : run.first ≤ c.toNat ∧ c.toNat ≤ run.last) :
    run.image.1 ≤ (Char.ofNat (c.toNat + run.shift).toNat).toNat ∧
      (Char.ofNat (c.toNat + run.shift).toNat).toNat ≤ run.image.2 := by
  have hpositive := h.positive
  have hvalid := h.valid
  simp only [image] at hvalid ⊢
  rw [toNat_ofNat]
  · omega
  · simp only [Nat.isValidChar]
    omega

theorem lowercase_image {run : CaseRun} (hrun : run ∈ lowercaseMapping.runs) {c l : Char}
    (hc : run.first ≤ c.toNat ∧ c.toNat ≤ run.last)
    (hl : l = Char.ofNat (c.toNat + run.shift).toNat) :
    isCaseless l = false ∧ (l.isLower = true → isNameLetter c = true) := by
  obtain ⟨-, -, hapart, -⟩ := caselessRanges_check
  have hplain := lowercaseMapping_check.1 run hrun
  have himage := hplain.toNat_image hc
  rw [← hl] at himage
  constructor
  · rw [Bool.eq_false_iff]
    intro hcaseless
    have hout := CharacterRanges.not_contains hapart (contains_caselessRanges hcaseless)
    rw [Bool.eq_false_iff] at hout
    exact hout (contains_iff.mpr ⟨run.image, List.mem_map_of_mem hrun, himage⟩)
  · intro hsmall
    have hrange := isLower_iff.mp hsmall
    rcases hplain.lower with hbelow | habove | ⟨r, hr, hfirst, hlast⟩
    · omega
    · omega
    · exact contains_iff.mpr ⟨r, hr, Nat.le_trans hfirst hc.1, Nat.le_trans hc.2 hlast⟩

/-- What becomes small Latin letters and characters without case is a rule character. -/
theorem isRuleChar_of_apply {c : Char}
    (h : ∀ l ∈ lowercaseMapping.apply c, isCaseless l = true ∨ l.isLower = true) :
    isRuleChar c = true := by
  rcases lowercaseMapping.apply_cases c with ⟨ns, hmem, happly⟩ |
    ⟨run, hmem, hrange, happly⟩ | happly
  · obtain ⟨n, hn, hcaseless, hlower⟩ := lowercaseMapping_check.2 _ hmem
    have := h _ (happly ▸ List.mem_map_of_mem hn)
    simp [hcaseless, hlower] at this
  · obtain ⟨hcaseless, hlower⟩ := lowercase_image hmem hrange rfl
    rcases h _ (happly ▸ List.mem_singleton_self _) with h | h
    · rw [hcaseless] at h
      cases h
    · exact isRuleChar_iff.mpr (.inr (hlower h))
  · rcases h c (happly ▸ List.mem_singleton_self c) with h | h
    · exact isRuleChar_iff.mpr (.inl h)
    · exact isRuleChar_iff.mpr (.inr (contains_iff.mpr
        ⟨_, List.mem_cons_of_mem _ List.mem_cons_self, isLower_iff.mp h⟩))

theorem lowerSigma_is_other (before after : List Char) :
    isCaseless (lowerSigma before after) = false ∧ (lowerSigma before after).isLower = false := by
  unfold lowerSigma
  split
  · exact ⟨rfl, rfl⟩
  · exact ⟨rfl, rfl⟩

theorem isRuleChar_of_lowerFrom (before : List Char) {cs : List Char}
    (h : ∀ l ∈ lowerFrom before cs, isCaseless l = true ∨ l.isLower = true) :
    ∀ c ∈ cs, isRuleChar c = true := by
  induction cs generalizing before with
  | nil => exact nofun
  | cons c cs ih =>
    simp only [lowerFrom, List.mem_append] at h
    -- What stands before a character shapes the lower case of a sigma only.
    refine List.forall_mem_cons.mpr ⟨?_, ih _ fun l hl => h l (.inr hl)⟩
    have hhead := fun l hl => h l (.inl hl)
    split at hhead
    · have := hhead _ (List.mem_singleton_self _)
      simp [lowerSigma_is_other before cs] at this
    · exact isRuleChar_of_apply hhead

theorem isRuleChar_of_lower {cs : List Char}
    (h : ∀ l ∈ lower cs, isCaseless l = true ∨ l.isLower = true) : ∀ c ∈ cs, isRuleChar c = true :=
  isRuleChar_of_lowerFrom [] h

/-- A text that lower case makes a word of small letters is written in letters of names. -/
theorem isNameLetter_of_lower {cs : List Char} (h : ∀ l ∈ lower cs, l.isLower = true) :
    ∀ c ∈ cs, isNameLetter c = true := by
  intro c hc
  have hchar := isRuleChar_of_lower (fun l hl => .inr (h l hl)) c hc
  refine (isRuleChar_iff.mp hchar).resolve_left fun hcaseless => ?_
  exact not_mem_of_lower_isLower (isNoLetter_of_isCaseless hcaseless) h hc

theorem lowerFrom_eq_map (before : List Char) {cs : List Char} (h : ∀ c ∈ cs, isRuleChar c = true) :
    lowerFrom before cs = cs.map small := by
  induction cs generalizing before with
  | nil => rfl
  | cons c cs ih =>
    obtain ⟨hc, hcs⟩ := List.forall_mem_cons.mp h
    obtain ⟨hsigma, hlower, -⟩ := apply_of_isRuleChar hc
    rw [lowerFrom, if_neg hsigma, hlower, ih _ hcs]
    rfl

theorem lower_eq_map {cs : List Char} (h : ∀ c ∈ cs, isRuleChar c = true) :
    lower cs = cs.map small :=
  lowerFrom_eq_map [] h

theorem caseFold_eq_map {cs : List Char} (h : ∀ c ∈ cs, isRuleChar c = true) :
    caseFold cs = cs.map small := by
  induction cs with
  | nil => rfl
  | cons c cs ih =>
    obtain ⟨hc, hcs⟩ := List.forall_mem_cons.mp h
    rw [caseFold, List.flatMap_cons, (apply_of_isRuleChar hc).2.2]
    exact congrArg (small c :: ·) (ih hcs)

/-- Two texts of rule characters that are the same but for the case of letters. -/
structure SameLetters (cs ds : List Char) : Prop where
  left : ∀ c ∈ cs, isRuleChar c = true
  right : ∀ d ∈ ds, isRuleChar d = true
  small_eq : cs.map small = ds.map small

namespace SameLetters

variable {cs ds : List Char}

theorem lower_eq (h : SameLetters cs ds) : lower cs = lower ds := by
  rw [lower_eq_map h.left, lower_eq_map h.right, h.small_eq]

theorem caseFold_eq (h : SameLetters cs ds) : caseFold cs = caseFold ds := by
  rw [caseFold_eq_map h.left, caseFold_eq_map h.right, h.small_eq]

theorem of_caseFold (hcs : ∀ c ∈ cs, isRuleChar c = true) (hds : ∀ d ∈ ds, isRuleChar d = true)
    (h : caseFold cs = caseFold ds) : SameLetters cs ds := by
  refine ⟨hcs, hds, ?_⟩
  rw [← caseFold_eq_map hcs, h, caseFold_eq_map hds]

theorem caseFold_self (h : ∀ c ∈ cs, isRuleChar c = true) : SameLetters cs (caseFold cs) := by
  rw [caseFold_eq_map h]
  refine ⟨h, List.forall_mem_map.mpr fun c hc => (isRuleChar_small (h c hc)).1, ?_⟩
  rw [List.map_map]
  exact List.map_congr_left fun c hc => (isRuleChar_small (h c hc)).2.symm

/-- Lower case does not hide a character that is none of a rule. -/
theorem of_lower (hcs : ∀ c ∈ cs, isRuleChar c = true) (h : lower cs = lower ds) :
    SameLetters cs ds := by
  have hds : ∀ d ∈ ds, isRuleChar d = true := by
    refine isRuleChar_of_lower fun l hl => ?_
    rw [← h, lower_eq_map hcs] at hl
    obtain ⟨c, hc, rfl⟩ := List.mem_map.mp hl
    rcases isRuleChar_iff.mp (hcs c hc) with hcaseless | hletter
    · rw [small_of_isCaseless hcaseless]
      exact .inl hcaseless
    · exact .inr (apply_of_isNameLetter hletter).2.2.2
  refine ⟨hcs, hds, ?_⟩
  rw [← lower_eq_map hcs, h, lower_eq_map hds]

theorem append {cs' ds' : List Char} (h : SameLetters cs ds) (h' : SameLetters cs' ds') :
    SameLetters (cs ++ cs') (ds ++ ds') where
  left := List.forall_mem_append.mpr ⟨h.left, h'.left⟩
  right := List.forall_mem_append.mpr ⟨h.right, h'.right⟩
  small_eq := by rw [List.map_append, List.map_append, h.small_eq, h'.small_eq]

theorem exists_append {first behind : List Char} (h : SameLetters (first ++ behind) ds) :
    ∃ first' behind', ds = first' ++ behind' ∧ SameLetters first first' ∧
      SameLetters behind behind' := by
  obtain ⟨hleft, hright, hsmall⟩ := h
  rw [List.map_append] at hsmall
  obtain ⟨first', behind', rfl, hfirst, hbehind⟩ := List.map_eq_append_iff.mp hsmall.symm
  rw [List.forall_mem_append] at hleft hright
  exact ⟨first', behind', rfl, ⟨hleft.1, hright.1, hfirst.symm⟩, ⟨hleft.2, hright.2, hbehind.symm⟩⟩

theorem map_eq_self {f : Char → Char} {cs : List Char} (h : ∀ c ∈ cs, f c = c) : cs.map f = cs :=
  (List.map_congr_left h).trans (List.map_id cs)

/-- Without letters there is one spelling. -/
theorem eq_of_isCaseless (h : SameLetters cs ds) (hcs : ∀ c ∈ cs, isCaseless c = true) :
    ds = cs := by
  have hsmall := h.small_eq
  rw [map_eq_self fun c hc => small_of_isCaseless (hcs c hc)] at hsmall
  have hds : ∀ d ∈ ds, small d = d := by
    intro d hd
    refine small_eq_self (h.right d hd) (hcs _ ?_)
    rw [hsmall]
    exact List.mem_map_of_mem hd
  rw [hsmall, map_eq_self hds]

theorem isBlank_small {c : Char} (h : isRuleChar c = true) : isBlank (small c) = isBlank c := by
  rcases isRuleChar_iff.mp h with hcaseless | hletter
  · rw [small_of_isCaseless hcaseless]
  · have hlower := (apply_of_isNameLetter hletter).2.2.2
    have hblank : isBlank (small c) = false := by
      rw [Bool.eq_false_iff]
      intro hblank
      rw [(isNoLetter_of_isBlank hblank).no_lower] at hlower
      cases hlower
    rw [hblank, eq_comm, Bool.eq_false_iff]
    intro hblank'
    rw [small_of_isCaseless (isCaseless_of_isBlank hblank'), hblank'] at hblank
    cases hblank

theorem isBlank_eq (h : SameLetters cs ds) {c d : Char} (hc : c ∈ cs) (hd : d ∈ ds)
    (heq : small c = small d) : isBlank d = isBlank c := by
  rw [← isBlank_small (h.right d hd), ← heq, isBlank_small (h.left c hc)]

theorem trimmed (h : SameLetters cs ds) (hcs : Trimmed cs) : Trimmed ds where
  head d hd := by
    have hmap := congrArg List.head? h.small_eq
    rw [List.head?_map, List.head?_map, Option.mem_def.mp hd] at hmap
    obtain ⟨c, hc, heq⟩ := Option.map_eq_some_iff.mp hmap
    rw [h.isBlank_eq (List.mem_of_mem_head? hc) (List.mem_of_mem_head? hd) heq]
    exact hcs.head c hc
  last d hd := by
    have hmap := congrArg List.getLast? h.small_eq
    rw [List.getLast?_map, List.getLast?_map, Option.mem_def.mp hd] at hmap
    obtain ⟨c, hc, heq⟩ := Option.map_eq_some_iff.mp hmap
    rw [h.isBlank_eq (List.mem_of_mem_getLast? hc) (List.mem_of_mem_getLast? hd) heq]
    exact hcs.last c hc

/-- The blanks at the ends are the same. -/
theorem trim (h : SameLetters cs ds) : SameLetters (trim cs) (trim ds) := by
  obtain ⟨before, behind, hbefore, hbehind, heq⟩ := exists_trim cs
  have hsame := h
  rw [heq] at hsame
  obtain ⟨first, behind', rfl, hfirst, hsame'⟩ := hsame.exists_append
  obtain ⟨before', core, rfl, hbefore', hcore⟩ := hfirst.exists_append
  obtain rfl := hbefore'.eq_of_isCaseless fun c hc => isCaseless_of_isBlank (hbefore c hc)
  obtain rfl := hsame'.eq_of_isCaseless fun c hc => isCaseless_of_isBlank (hbehind c hc)
  rwa [trim_append hbefore (hcore.trimmed (trimmed_trim cs)) hbehind]

end SameLetters
end DateRules.Text
