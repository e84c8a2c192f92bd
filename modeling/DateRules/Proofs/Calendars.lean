import Mathlib.Data.List.Nodup
import DateRules.Config
import DateRules.Proofs.Criteria.Run
import DateRules.Proofs.Outcome
import DateRules.Proofs.Repetition

/-!
Criteria from the blocks of a file. Blocks are checked in their order, each by one check after the
other, and what the first check that fails finds is reported. If none does, a name has the place of
its first block and the criteria that are made directly from the settings of its last.
-/
namespace DateRules

def Data.blocks? (file : Data) : Option (List (Data × Data)) :=
  file.entries?.bind fun entries => (Data.get? entries "calendars").bind Data.entries?

/-- What is set in a block; in one that is null, nothing. -/
def Data.settings? : Data → Option (List (Data × Data))
  | .null => some []
  | v => v.entries?

/-- Under the key stands a truth value, or the default is meant. -/
inductive IsFlag (settings : List (Data × Data)) (key : String) (default : Bool) : Bool → Prop
  | absent (h : Data.get? settings key = none) : IsFlag settings key default default
  | null (h : Data.get? settings key = some .null) : IsFlag settings key default default
  | given {b : Bool} (h : Data.get? settings key = some (.bool b)) : IsFlag settings key default b

/-- The rules are a list, or nothing that counts as a value. -/
inductive AreRules (settings : List (Data × Data)) : List Data → Prop
  | absent (h : Data.get? settings "rules" = none) : AreRules settings []
  | unset {v : Data} (h : Data.get? settings "rules" = some v) (hset : v.isSet = false) :
      AreRules settings []
  | given {v : Data} {items : List Data} (h : Data.get? settings "rules" = some v)
      (hlist : v.list? = some items) : AreRules settings items

/-- What a block says of the criteria that it is for. -/
def IsBlock (block : Data) (negate autoRefresh : Bool) (rules : List Data) : Prop :=
  ∃ settings, block.settings? = some settings ∧ AreRules settings rules ∧
    IsFlag settings "negate" false negate ∧ IsFlag settings "auto_refresh" true autoRefresh

def IsSoundBlock (block : Data) : Prop :=
  ∃ negate autoRefresh rules, IsBlock block negate autoRefresh rules ∧
    ∀ v ∈ rules, ∃ r, (RuleSource.data v).compile false "" = .ok r

/-- The block gives criteria, and there is a name for them. -/
def IsSoundEntry (entry : Data × Data) : Prop :=
  (∃ name, entry.1.name? = some name) ∧ IsSoundBlock entry.2

/-- What stands under the key is no truth value. -/
inductive FlagFault (settings : List (Data × Data)) (key : String) : SourceError → Prop
  | intro {v : Data} (h : Data.get? settings key = some v) (hnull : v ≠ .null)
      (hbool : ∀ b, v ≠ .bool b) : FlagFault settings key (.quoting (.notATruthValue key) v)

/-- What is wrong with a block. A check comes after those that it takes for passed. -/
inductive BlockFault (name : String) (block : Data) : ConfigError → Prop
  | noMapping (hblock : block.settings? = none) : BlockFault name block (.blockNotAMapping name)
  | noList {settings : List (Data × Data)} {v : Data} (hblock : block.settings? = some settings)
      (hrules : Data.get? settings "rules" = some v) (hlist : v.list? = none)
      (hset : v.isSet = true) : BlockFault name block (.rulesNotAList v.typeName)
  | negate {settings : List (Data × Data)} {rules : List Data} {e : SourceError}
      (hblock : block.settings? = some settings) (hrules : AreRules settings rules)
      (hflag : FlagFault settings "negate" e) : BlockFault name block (.source e)
  | autoRefresh {settings : List (Data × Data)} {rules : List Data} {negate : Bool}
      {e : SourceError} (hblock : block.settings? = some settings)
      (hrules : AreRules settings rules) (hnegate : IsFlag settings "negate" false negate)
      (hflag : FlagFault settings "auto_refresh" e) : BlockFault name block (.source e)
  | rule {negate autoRefresh : Bool} {before behind : List Data} {v : Data} {e : SourceError}
      (hblock : IsBlock block negate autoRefresh (before ++ v :: behind))
      (hbefore : ∀ w ∈ before, ∃ r, (RuleSource.data w).compile false "" = .ok r)
      (hrule : (RuleSource.data v).compile false "" = .error e) : BlockFault name block (.source e)

/-- What is wrong with a block or, before that, with its name. -/
inductive EntryFault : Data × Data → ConfigError → Prop
  | name {key block : Data} (hname : key.name? = none) : EntryFault (key, block) .unwritableName
  | block {key block : Data} {name : String} {e : ConfigError} (hname : key.name? = some name)
      (hblock : BlockFault name block e) : EntryFault (key, block) e

section
variable {settings : List (Data × Data)} {key : String} {default b : Bool}

theorem readFlag_eq_ok_iff : readFlag settings key default = .ok b ↔
    IsFlag settings key default b := by
  unfold readFlag
  constructor
  · intro h
    split at h
    · cases h
      exact .absent ‹_›
    · cases h
      exact .null ‹_›
    · cases h
      exact .given ‹_›
    · cases h
  · rintro (h | h | h) <;> rw [h]

theorem readFlag_eq_error_iff {e : SourceError} :
    readFlag settings key default = .error e ↔ FlagFault settings key e := by
  unfold readFlag
  constructor
  · intro h
    split at h
    · cases h
    · cases h
    · cases h
    · rename_i v hnull hbool hv
      cases h
      exact .intro hv hnull hbool
  · rintro ⟨hv, hnull, hbool⟩
    rename_i v
    rw [hv]
    cases v with
    | null => exact absurd rfl hnull
    | bool b => exact absurd rfl (hbool b)
    | _ => rfl

/-- What counts as no value holds nothing. -/
theorem Data.eq_nil_of_list? {v : Data} {items : List Data} (h : v.list? = some items)
    (hset : v.isSet = false) : items = [] := by
  cases v with
  | list items' =>
    cases h
    exact List.isEmpty_iff.mp (by simpa [isSet] using hset)
  | loop name v =>
    cases v with
    | list items' =>
      obtain rfl : items' = [] := List.isEmpty_iff.mp (by simpa [isSet] using hset)
      cases h
      rfl
    | loop other v | again other =>
      by_cases hsame : other = name <;> simp [list?, opened, substitute, hsame] at h
    | _ => cases h
  | _ => cases h

theorem readRules_eq_ok_iff {rules : List Data} :
    Config.readRules settings = .ok rules ↔ AreRules settings rules := by
  unfold Config.readRules
  constructor
  · intro h
    split at h
    · cases h
      exact .absent ‹_›
    · rename_i v hv
      split at h
      · cases h
        exact .given hv ‹_›
      · cases hset : v.isSet with
        | false =>
          rw [hset] at h
          cases h
          exact .unset hv hset
        | true =>
          rw [hset] at h
          cases h
  · rintro (h | ⟨h, hset⟩ | ⟨h, hlist⟩)
    · rw [h]
    · rename_i v
      rw [h]
      dsimp only
      split
      · rename_i items hlist
        rw [Data.eq_nil_of_list? hlist hset]
      · rw [hset]
        rfl
    · rw [h]
      dsimp only
      rw [hlist]

theorem readRules_eq_error_iff {e : ConfigError} : Config.readRules settings = .error e ↔
    ∃ v, Data.get? settings "rules" = some v ∧ v.list? = none ∧ v.isSet = true ∧
      e = .rulesNotAList v.typeName := by
  unfold Config.readRules
  constructor
  · intro h
    split at h
    · cases h
    · rename_i v hv
      split at h
      · cases h
      · rename_i hlist
        split at h
        · cases h
          exact ⟨v, hv, hlist, ‹_›, rfl⟩
        · cases h
  · rintro ⟨v, hv, hlist, hset, rfl⟩
    rw [hv]
    dsimp only
    rw [hlist, hset]
    rfl

end

theorem ofEntries_eq_ok_iff {settings : List (Data × Data)} {name : Data} {config : Config} :
    Config.ofEntries settings name = .ok config ↔ AreRules settings config.rules ∧
      IsFlag settings "negate" false config.negate ∧
      IsFlag settings "auto_refresh" true config.autoRefresh ∧ config.name = name := by
  simp only [Config.ofEntries, bind_eq_ok_iff, mapError_eq_ok_iff, readRules_eq_ok_iff,
    readFlag_eq_ok_iff]
  constructor
  · rintro ⟨rules, hrules, negate, hnegate, auto, hauto, hconfig⟩
    cases hconfig
    exact ⟨hrules, hnegate, hauto, rfl⟩
  · rintro ⟨hrules, hnegate, hauto, rfl⟩
    exact ⟨_, hrules, _, hnegate, _, hauto, rfl⟩

theorem ofEntries_eq_error_iff {settings : List (Data × Data)} {name : Data} {e : ConfigError} :
    Config.ofEntries settings name = .error e ↔ Config.readRules settings = .error e ∨
      ∃ rules, AreRules settings rules ∧
        ((∃ fault, FlagFault settings "negate" fault ∧ e = .source fault) ∨
          ∃ negate, IsFlag settings "negate" false negate ∧
            ∃ fault, FlagFault settings "auto_refresh" fault ∧ e = .source fault) := by
  simp only [Config.ofEntries, bind_eq_error_iff, mapError_eq_ok_iff, mapError_eq_error_iff,
    readRules_eq_ok_iff, readFlag_eq_ok_iff, readFlag_eq_error_iff]
  simp [pure, Except.pure]

/-- Adding the rules first and setting the refreshing afterwards makes no difference. -/
theorem Config.build_eq_create (config : Config) : config.build =
    Criteria.create config.negate config.autoRefresh (.items (config.rules.map .data)) := by
  unfold Config.build Criteria.create
  cases hrules : config.rules with
  | nil => rfl
  | cons v vs =>
    cases hcompile : (RuleBatch.items ((v :: vs).map .data)).compile with
    | error e => rfl
    | ok rules =>
      simp only [Criteria.insert_empty, bind, Except.bind, pure, Except.pure]
      rfl

theorem create_eq_bind (negate auto : Bool) (rules : List Data) :
    Criteria.create negate auto (.items (rules.map .data)) =
      (rules.mapM fun v => (RuleSource.data v).compile false "") >>= fun compiled =>
        .ok ⟨negate, auto, compiled.eraseDups, []⟩ := by
  have hcompile : (RuleBatch.items (rules.map .data)).compile =
      rules.mapM fun v => (RuleSource.data v).compile false "" := List.mapM_map
  rw [Criteria.create, hcompile]
  cases rules with
  | nil => rfl
  | cons v vs =>
    simp only [Criteria.insert_empty]
    rfl

theorem create_eq_error_iff {negate auto : Bool} {rules : List Data} {e : SourceError} :
    Criteria.create negate auto (.items (rules.map .data)) = .error e ↔
      ∃ before v behind, rules = before ++ v :: behind ∧
        (∀ w ∈ before, ∃ r, (RuleSource.data w).compile false "" = .ok r) ∧
        (RuleSource.data v).compile false "" = .error e := by
  rw [create_eq_bind, bind_eq_error_iff, mapM_eq_error_iff]
  simp

theorem exists_create_eq_ok_iff {negate auto : Bool} {rules : List Data} :
    (∃ c, Criteria.create negate auto (.items (rules.map .data)) = .ok c) ↔
      ∀ v ∈ rules, ∃ r, (RuleSource.data v).compile false "" = .ok r := by
  simp only [create_eq_bind, bind_eq_ok_iff]
  rw [← exists_mapM_eq_ok_iff, exists_comm]
  refine exists_congr fun compiled => ?_
  simp

theorem cache_of_create {negate auto : Bool} {batch : RuleBatch} {c : Criteria}
    (h : Criteria.create negate auto batch = .ok c) : c.cache = [] := by
  obtain ⟨rules, rfl, -⟩ := Criteria.create_eq_ok h
  rfl

/-! ### Blocks -/

theorem calendarOfBlock_eq (name : String) (block : Data) : calendarOfBlock name block =
    match block.settings? with
    | none => .error (.blockNotAMapping name)
    | some settings => Config.ofEntries settings (.text name) >>= fun config =>
      (Criteria.create config.negate config.autoRefresh
        (.items (config.rules.map .data))).mapError .source := by
  unfold calendarOfBlock
  simp only [Config.build_eq_create]
  cases block with
  | loop loopName v =>
    have hsettings : (Data.loop loopName v).settings? = (Data.loop loopName v).entries? := rfl
    rw [hsettings]
    cases (Data.loop loopName v).entries? <;> rfl
  | _ => rfl

theorem calendarOfBlock_eq_ok_iff {name : String} {block : Data} {c : Criteria} :
    calendarOfBlock name block = .ok c ↔ ∃ negate auto rules, IsBlock block negate auto rules ∧
      Criteria.create negate auto (.items (rules.map .data)) = .ok c := by
  rw [calendarOfBlock_eq]
  constructor
  · intro h
    split at h
    · cases h
    · rename_i settings hsettings
      obtain ⟨config, hconfig, hcreate⟩ := bind_eq_ok_iff.mp h
      obtain ⟨hrules, hnegate, hauto, -⟩ := ofEntries_eq_ok_iff.mp hconfig
      exact ⟨_, _, _, ⟨settings, hsettings, hrules, hnegate, hauto⟩, mapError_eq_ok_iff.mp hcreate⟩
  · rintro ⟨negate, auto, rules, ⟨settings, hsettings, hrules, hnegate, hauto⟩, hcreate⟩
    rw [hsettings]
    refine bind_eq_ok_iff.mpr ⟨⟨negate, auto, rules, .text name⟩, ?_,
      mapError_eq_ok_iff.mpr hcreate⟩
    exact ofEntries_eq_ok_iff.mpr ⟨hrules, hnegate, hauto, rfl⟩

theorem calendarOfBlock_eq_error_iff {name : String} {block : Data} {e : ConfigError} :
    calendarOfBlock name block = .error e ↔ BlockFault name block e := by
  rw [calendarOfBlock_eq]
  constructor
  · intro h
    split at h
    · cases h
      exact .noMapping ‹_›
    · rename_i settings hsettings
      rcases bind_eq_error_iff.mp h with hread | ⟨config, hconfig, hcreate⟩
      · rcases ofEntries_eq_error_iff.mp hread with hread | ⟨rules, hrules, hflag⟩
        · obtain ⟨v, hv, hlist, hset, rfl⟩ := readRules_eq_error_iff.mp hread
          exact .noList hsettings hv hlist hset
        · rcases hflag with ⟨fault, hflag, rfl⟩ | ⟨negate, hnegate, fault, hflag, rfl⟩
          · exact .negate hsettings hrules hflag
          · exact .autoRefresh hsettings hrules hnegate hflag
      · obtain ⟨hrules, hnegate, hauto, -⟩ := ofEntries_eq_ok_iff.mp hconfig
        obtain ⟨fault, hfault, rfl⟩ := mapError_eq_error_iff.mp hcreate
        obtain ⟨before, v, behind, heq, hbefore, hv⟩ := create_eq_error_iff.mp hfault
        rw [heq] at hrules
        exact .rule ⟨settings, hsettings, hrules, hnegate, hauto⟩ hbefore hv
  · intro h
    cases h with
    | noMapping hblock => rw [hblock]
    | noList hblock hrules hlist hset =>
      rw [hblock]
      refine bind_eq_error_iff.mpr (.inl (ofEntries_eq_error_iff.mpr (.inl ?_)))
      exact readRules_eq_error_iff.mpr ⟨_, hrules, hlist, hset, rfl⟩
    | negate hblock hrules hflag =>
      rw [hblock]
      refine bind_eq_error_iff.mpr (.inl (ofEntries_eq_error_iff.mpr (.inr ⟨_, hrules, .inl ?_⟩)))
      exact ⟨_, hflag, rfl⟩
    | autoRefresh hblock hrules hnegate hflag =>
      rw [hblock]
      refine bind_eq_error_iff.mpr (.inl (ofEntries_eq_error_iff.mpr (.inr ⟨_, hrules, .inr ?_⟩)))
      exact ⟨_, hnegate, _, hflag, rfl⟩
    | @rule negate auto before behind v fault hblock hbefore hrule =>
      obtain ⟨settings, hsettings, hrules, hnegate, hauto⟩ := hblock
      have hconfig : Config.ofEntries settings (.text name) =
          .ok ⟨negate, auto, before ++ v :: behind, .text name⟩ :=
        ofEntries_eq_ok_iff.mpr ⟨hrules, hnegate, hauto, rfl⟩
      have hcreate := (@create_eq_error_iff negate auto _ fault).mpr
        ⟨before, v, behind, rfl, hbefore, hrule⟩
      rw [hsettings]
      exact bind_eq_error_iff.mpr
        (.inr ⟨_, hconfig, mapError_eq_error_iff.mpr ⟨fault, hcreate, rfl⟩⟩)

def namedCalendar (entry : Data × Data) : Except ConfigError (String × Criteria) :=
  match entry.1.name? with
  | none => .error .unwritableName
  | some name => (name, ·) <$> calendarOfBlock name entry.2

theorem namedCalendar_eq_ok_iff {entry : Data × Data} {name : String} {c : Criteria} :
    namedCalendar entry = .ok (name, c) ↔ entry.1.name? = some name ∧
      ∃ negate auto rules, IsBlock entry.2 negate auto rules ∧
        Criteria.create negate auto (.items (rules.map .data)) = .ok c := by
  rw [namedCalendar, ← @calendarOfBlock_eq_ok_iff name]
  cases entry.1.name? with
  | none => simp
  | some written =>
    simp only [map_eq_ok_iff, Prod.mk.injEq, Option.some.injEq]
    constructor
    · rintro ⟨c', hc', rfl, rfl⟩
      exact ⟨rfl, hc'⟩
    · rintro ⟨rfl, hc⟩
      exact ⟨c, hc, rfl, rfl⟩

theorem exists_namedCalendar_eq_ok_iff {entry : Data × Data} :
    (∃ e, namedCalendar entry = .ok e) ↔ IsSoundEntry entry := by
  constructor
  · rintro ⟨⟨name, c⟩, h⟩
    obtain ⟨hname, negate, auto, rules, hblock, hcreate⟩ := namedCalendar_eq_ok_iff.mp h
    exact ⟨⟨name, hname⟩, negate, auto, rules, hblock, exists_create_eq_ok_iff.mp ⟨c, hcreate⟩⟩
  · rintro ⟨⟨name, hname⟩, negate, auto, rules, hblock, hrules⟩
    obtain ⟨c, hcreate⟩ := (@exists_create_eq_ok_iff negate auto rules).mpr hrules
    exact ⟨(name, c), namedCalendar_eq_ok_iff.mpr ⟨hname, negate, auto, rules, hblock, hcreate⟩⟩

theorem namedCalendar_eq_error_iff {entry : Data × Data} {e : ConfigError} :
    namedCalendar entry = .error e ↔ EntryFault entry e := by
  obtain ⟨key, block⟩ := entry
  rw [namedCalendar]
  constructor
  · intro h
    split at h
    · cases h
      exact .name ‹_›
    · exact .block ‹_› (calendarOfBlock_eq_error_iff.mp (map_eq_error_iff.mp h))
  · intro h
    cases h with
    | name hname => rw [hname]
    | block hname hblock =>
      rw [hname]
      exact map_eq_error_iff.mpr (calendarOfBlock_eq_error_iff.mpr hblock)

/-! ### Calendars -/

namespace Calendars

/-- The names in the order of their first blocks, each with the criteria that its last block gives.
No answer is kept in them yet. -/
structure AreOf (calendars : Calendars) (blocks : List (Data × Data)) : Prop where
  names : KeepsFirsts (· = ·) (blocks.map fun entry => entry.1.name?)
    ((calendars.map Prod.fst).map some)
  criteria {name : String} {c : Criteria} (h : (name, c) ∈ calendars) :
    ∃ before key block behind negate auto rules, blocks = before ++ (key, block) :: behind ∧
      key.name? = some name ∧ (∀ entry ∈ behind, entry.1.name? ≠ some name) ∧
      IsBlock block negate auto rules ∧
      Criteria.create negate auto (.items (rules.map .data)) = .ok c ∧ c.cache = []

variable {calendars : Calendars} {name : String} {c : Criteria}

theorem keys_insert : (calendars.insert name c).map Prod.fst =
    if name ∈ calendars.map Prod.fst then calendars.map Prod.fst
    else calendars.map Prod.fst ++ [name] := by
  induction calendars with
  | nil => rfl
  | cons e calendars ih =>
    rw [insert]
    by_cases hname : e.1 = name
    · simp [hname]
    · simp only [hname, if_false, List.map_cons, ih, List.mem_cons, Ne.symm hname, false_or]
      split <;> rfl

theorem mem_insert (hnodup : (calendars.map Prod.fst).Nodup) {e : String × Criteria}
    (h : e ∈ calendars.insert name c) : e = (name, c) ∨ e ∈ calendars ∧ e.1 ≠ name := by
  induction calendars with
  | nil => exact .inl (List.mem_singleton.mp h)
  | cons first calendars ih =>
    obtain ⟨hfirst, hnodup⟩ := List.nodup_cons.mp hnodup
    rw [insert] at h
    split at h
    · rename_i hname
      rcases List.mem_cons.mp h with rfl | hmem
      · exact .inl rfl
      · refine .inr ⟨List.mem_cons_of_mem _ hmem, fun hsame => hfirst ?_⟩
        rw [hname, ← hsame]
        exact List.mem_map_of_mem hmem
    · rename_i hname
      rcases List.mem_cons.mp h with rfl | hmem
      · exact .inr ⟨List.mem_cons_self, hname⟩
      · exact (ih hnodup hmem).imp_right fun ⟨hmem, hne⟩ => ⟨List.mem_cons_of_mem _ hmem, hne⟩

/-- One more block puts its criteria in the place of those with its name, or behind all. -/
theorem AreOf.insert {blocks : List (Data × Data)} {entry : Data × Data}
    (h : AreOf calendars blocks) (hentry : namedCalendar entry = .ok (name, c)) :
    AreOf (calendars.insert name c) (blocks ++ [entry]) := by
  obtain ⟨hname, negate, auto, rules, hblock, hcreate⟩ := namedCalendar_eq_ok_iff.mp hentry
  have hmem : some name ∈ (calendars.map Prod.fst).map some ↔ name ∈ calendars.map Prod.fst := by
    simp
  constructor
  · rw [List.map_append, List.map_singleton, hname, keys_insert]
    split
    · rename_i hold
      exact .again h.names ⟨some name, h.names.mem_iff.mp (hmem.mpr hold), rfl⟩
    · rename_i hnew
      rw [List.map_append, List.map_singleton]
      exact .first h.names fun b hb hsame => hnew (hmem.mp (h.names.mem_iff.mpr (hsame ▸ hb)))
  · intro name' c' hc'
    rcases mem_insert (List.Nodup.of_map some h.names.nodup) hc' with heq | ⟨hold, hne⟩
    · cases heq
      exact ⟨blocks, entry.1, entry.2, [], negate, auto, rules, rfl, hname, nofun, hblock, hcreate,
        cache_of_create hcreate⟩
    · obtain ⟨before, key, block, behind, negate', auto', rules', rfl, hkey, hbehind, hrest⟩ :=
        h.criteria hold
      refine ⟨before, key, block, behind ++ [entry], negate', auto', rules', by simp, hkey, ?_,
        hrest⟩
      refine List.forall_mem_append.mpr ⟨hbehind, List.forall_mem_singleton.mpr ?_⟩
      rw [hname]
      exact fun heq => hne (Option.some.inj heq).symm

theorem calendarsOfBlocks_cons (built : Calendars) (entry : Data × Data)
    (blocks : List (Data × Data)) :
    calendarsOfBlocks built (entry :: blocks) = namedCalendar entry >>= fun e =>
      calendarsOfBlocks (built.insert e.1 e.2) blocks := by
  obtain ⟨key, block⟩ := entry
  rw [calendarsOfBlocks, namedCalendar]
  cases key.name? with
  | none => rfl
  | some name =>
    dsimp only
    cases calendarOfBlock name block <;> rfl

/-- Reading the blocks and setting the criteria under their names do not depend on each other. -/
theorem calendarsOfBlocks_eq (built : Calendars) (blocks : List (Data × Data)) :
    calendarsOfBlocks built blocks = blocks.mapM namedCalendar >>= fun named =>
      .ok (named.foldl (fun built e => built.insert e.1 e.2) built) := by
  induction blocks generalizing built with
  | nil => rfl
  | cons entry blocks ih =>
    rw [calendarsOfBlocks_cons, List.mapM_cons]
    cases namedCalendar entry with
    | error e => rfl
    | ok e =>
      change calendarsOfBlocks (built.insert e.1 e.2) blocks = _
      rw [ih]
      cases blocks.mapM namedCalendar <;> rfl

theorem areOf_of_calendarsOfBlocks {built : Calendars} {before blocks : List (Data × Data)}
    (hbuilt : AreOf built before) (h : calendarsOfBlocks built blocks = .ok calendars) :
    AreOf calendars (before ++ blocks) := by
  induction blocks generalizing built before with
  | nil =>
    cases h
    rwa [List.append_nil]
  | cons entry blocks ih =>
    rw [calendarsOfBlocks_cons] at h
    obtain ⟨⟨name, c⟩, hentry, hrest⟩ := bind_eq_ok_iff.mp h
    have hall := ih (hbuilt.insert hentry) hrest
    rwa [List.append_assoc] at hall

theorem areOf_nil : AreOf [] [] := ⟨.nil, nofun⟩

theorem ofData_of_blocks {file : Data} {blocks : List (Data × Data)}
    (h : file.blocks? = some blocks) :
    ofData file = calendarsOfBlocks [] blocks := by
  obtain ⟨entries, hentries, hblocks⟩ := Option.bind_eq_some_iff.mp h
  have htop : Config.topEntries file = .ok entries := by rw [Config.topEntries, hentries]
  simp only [ofData, htop, bind, Except.bind, hblocks]

end Calendars

/-- Calendars are given if every block is sound and has a name; otherwise the first that is not
decides what is reported. The criteria of a name are those which its last block gives directly, so
that whatever is done with them from there on has the same results. -/
theorem calendars_of_blocks {file : Data} {blocks : List (Data × Data)}
    (h : file.blocks? = some blocks) :
    ((∃ calendars, Calendars.ofData file = .ok calendars) ↔ ∀ entry ∈ blocks, IsSoundEntry entry) ∧
      (∀ e, Calendars.ofData file = .error e ↔ ∃ before entry behind,
        blocks = before ++ entry :: behind ∧ (∀ entry ∈ before, IsSoundEntry entry) ∧
          EntryFault entry e) ∧
      ∀ calendars, Calendars.ofData file = .ok calendars → calendars.AreOf blocks := by
  rw [Calendars.ofData_of_blocks h]
  refine ⟨?_, fun e => ?_, fun calendars hcalendars => ?_⟩
  · simp only [Calendars.calendarsOfBlocks_eq, bind_eq_ok_iff, ← exists_namedCalendar_eq_ok_iff]
    rw [← exists_mapM_eq_ok_iff, exists_comm]
    simp
  · rw [Calendars.calendarsOfBlocks_eq, bind_eq_error_iff, mapM_eq_error_iff]
    simp only [exists_namedCalendar_eq_ok_iff, namedCalendar_eq_error_iff, reduceCtorEq, and_false,
      exists_false, or_false]
  · exact Calendars.areOf_of_calendarsOfBlocks Calendars.areOf_nil hcalendars

/-- An integer and a text that are written alike are one name. -/
theorem calendars_of_one_and_its_text :
    let blocks : List (Data × Data) := [(.integer 1, .mapping [(.text "negate", .bool true)]),
      (.text "1", .mapping [(.text "rules", .list [.text "month == 12"])])]
    let file : Data := .mapping [(.text "calendars", .mapping blocks)]
    file.blocks? = some blocks ∧
      ∃ calendars, Calendars.ofData file = .ok calendars ∧ calendars.AreOf blocks := by
  intro blocks file
  have hblocks : file.blocks? = some blocks := rfl
  obtain ⟨hreturns, -, hcalendars⟩ := calendars_of_blocks hblocks
  have hone : (Data.integer 1).name? = some "1" := by decide +kernel
  have hrule : ∃ r, (RuleSource.data (.text "month == 12")).compile false "" = .ok r ∧
      (r.constraints.length == 1) = true := exists_ok_of_any (by decide +kernel)
  have hfirst : IsSoundEntry (.integer 1, .mapping [(.text "negate", .bool true)]) :=
    ⟨⟨"1", hone⟩, true, true, [], ⟨_, rfl, .absent rfl, .given rfl, .absent rfl⟩, nofun⟩
  have hsecond : IsSoundEntry
      (.text "1", .mapping [(.text "rules", .list [.text "month == 12"])]) :=
    ⟨⟨"1", rfl⟩, false, true, [.text "month == 12"],
      ⟨_, rfl, .given rfl rfl, .absent rfl, .absent rfl⟩,
      List.forall_mem_singleton.mpr (hrule.imp fun _ h => h.1)⟩
  obtain ⟨calendars, h⟩ := hreturns.mpr
    (List.forall_mem_cons.mpr ⟨hfirst, List.forall_mem_singleton.mpr hsecond⟩)
  exact ⟨hblocks, calendars, h, hcalendars calendars h⟩

theorem Data.name?_integer_eq_none {z : Int} (h : Nat.pow 10 Text.Numeral.maxDigits ≤ z.natAbs) :
    (integer z).name? = none := by
  have hname : (integer z).name? = integerText? z := rfl
  rw [hname, integerText?, if_neg (Nat.not_lt.mpr h)]

theorem ofData_of_long_name {z : Int} (h : Nat.pow 10 Text.Numeral.maxDigits ≤ z.natAbs)
    (block : Data) :
    Calendars.ofData (.mapping [(.text "calendars", .mapping [(.integer z, block)])]) =
      .error .unwritableName := by
  have hblocks : Data.blocks? (.mapping [(.text "calendars", .mapping [(.integer z, block)])]) =
      some [(.integer z, block)] := rfl
  rw [Calendars.ofData_of_blocks hblocks, Calendars.calendarsOfBlocks_cons, namedCalendar,
    Data.name?_integer_eq_none h]
  rfl

/-- There is nothing wrong with the block, but its name is an integer of more digits than are
written. -/
theorem no_calendar_of_long_integer :
    IsSoundBlock (.mapping []) ∧ Calendars.ofData (.mapping [(.text "calendars", .mapping
      [(.integer (Int.ofNat (Nat.pow 16 3600)), .mapping [])])]) = .error .unwritableName := by
  refine ⟨⟨false, true, [], ⟨[], rfl, .absent rfl, .absent rfl, .absent rfl⟩, nofun⟩, ?_⟩
  exact ofData_of_long_name (by decide +kernel) _

end DateRules
