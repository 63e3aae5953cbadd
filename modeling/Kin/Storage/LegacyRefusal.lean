import Kin.Storage.Migrations
import Mathlib.Data.List.Find
import Mathlib.Data.List.Forall2
import Mathlib.Logic.Function.Iterate

/-!
Profiles that are older than the numbering of migrations and that the check refuses.
The call that refuses one has created `schema_migrations` before, and the check is for
profiles without that table: the next call migrates the profile.
-/

namespace Kin.Storage.Migrations

variable {env : Environment} {db : Database}

/-- The database after so many calls of `run_migrations`. -/
def afterCalls (env : Environment) (db : Database) (n : Nat) : Database :=
  (fun d => (runMigrations env d).1)^[n] db

def Run.refuses : Run → Bool
  | .report r => !r.errors.isEmpty && r.applied.isEmpty
  | .raised => true

/-- `_validate_and_backfill_legacy_v1` rejects the schema. -/
def Rejected (env : Environment) (db : Database) : Prop :=
  ∃ tables reason, introspectTables env db = some tables ∧ unsupported? tables = some reason

/-- Every call refuses the profile, and it counts as legacy before and after each. -/
def StaysRefused (env : Environment) (db : Database) : Prop :=
  ∀ n, isLegacyUnmigratedProfile (afterCalls env db n) = true ∧
    (runMigrations env (afterCalls env db n)).2.refuses = true

def bookkeeping : Table := ⟨"schema_migrations", ["version", "name", "applied_at", "checksum"]⟩

/-- The database with an empty `schema_migrations`. -/
def withBookkeeping (db : Database) : Database :=
  { db with tables := db.tables ++ [bookkeeping], applied := some [] }

theorem ensureMigrationsTable_of_free (hfree : db.occupied "schema_migrations" = false) :
    ensureMigrationsTable env db = some (withBookkeeping db) := by
  have hboth := hfree
  rw [Database.occupied, Bool.or_eq_false_iff] at hboth
  have hexec : exec env db (.createTable "schema_migrations"
      ["version", "name", "applied_at", "checksum"]) =
      some { db with tables := db.tables ++ [bookkeeping] } := by
    rw [exec, hboth.1, hboth.2]
    rfl
  rw [ensureMigrationsTable, hexec, hfree]
  rfl

/-- Where the name is taken, the statement does nothing or raises. -/
theorem ensureMigrationsTable_of_occupied (hoccupied : db.occupied "schema_migrations" = true) :
    ensureMigrationsTable env db = some db ∨ ensureMigrationsTable env db = none := by
  rw [ensureMigrationsTable, exec, hoccupied]
  by_cases hhere : ((db.table? "schema_migrations").isSome || db.hasView "schema_migrations") = true
  · rw [if_pos hhere]
    exact .inl rfl
  · rw [Database.occupied, Bool.or_eq_true] at hoccupied
    rw [if_neg hhere, if_pos (hoccupied.resolve_left hhere)]
    exact .inr rfl

/-! ### The check with the new table -/

/-- The columns are the same, except that an apostrophe in the name may make the query be
about another table. -/
def SameInfo (a b : Table) : Prop := a.name = b.name ∧ ('\'' ∉ a.name.toList → a.columns = b.columns)

theorem tableInfo_withBookkeeping {t : Table} {columns : List String}
    (h : tableInfo env db t = some columns) :
    ∃ columns', tableInfo env (withBookkeeping db) t = some columns' ∧
      SameInfo ⟨t.name, columns⟩ ⟨t.name, columns'⟩ := by
  unfold tableInfo at h ⊢
  split at h
  · rename_i hquoted
    obtain ⟨name, hname, -⟩ := Option.map_eq_some_iff.mp h
    rw [if_pos hquoted, hname]
    exact ⟨_, rfl, rfl, fun hplain => absurd hquoted hplain⟩
  · rename_i hplain
    rw [if_neg hplain]
    exact ⟨columns, h, rfl, fun _ => rfl⟩

theorem mapM_tableInfo {tables infos : List Table}
    (h : tables.mapM (fun t => (tableInfo env db t).map (Table.mk t.name)) = some infos) :
    ∃ infos', tables.mapM (fun t => (tableInfo env (withBookkeeping db) t).map (Table.mk t.name)) =
        some infos' ∧ List.Forall₂ SameInfo infos infos' := by
  induction tables generalizing infos with
  | nil =>
      cases h
      exact ⟨[], rfl, .nil⟩
  | cons t tables ih =>
      rw [List.mapM_cons, Option.bind_eq_bind, Option.bind_eq_some_iff] at h
      obtain ⟨info, hinfo, h⟩ := h
      rw [Option.bind_eq_bind, Option.bind_eq_some_iff] at h
      obtain ⟨rest, hrest, h⟩ := h
      cases h
      obtain ⟨columns, hcolumns, rfl⟩ := Option.map_eq_some_iff.mp hinfo
      obtain ⟨columns', hcolumns', hsame⟩ := tableInfo_withBookkeeping hcolumns
      obtain ⟨rest', hrest', hall⟩ := ih hrest
      refine ⟨⟨t.name, columns'⟩ :: rest', ?_, .cons hsame hall⟩
      rw [List.mapM_cons, hcolumns', hrest']
      rfl

theorem introspectTables_withBookkeeping {infos : List Table}
    (h : introspectTables env db = some infos) :
    ∃ infos', introspectTables env (withBookkeeping db) = some (infos' ++ [bookkeeping]) ∧
      List.Forall₂ SameInfo infos infos' := by
  obtain ⟨infos', hinfos', hall⟩ := mapM_tableInfo h
  refine ⟨infos', ?_, hall⟩
  have hkept : ("sqlite_".toList.isPrefixOf bookkeeping.name.toList) = false := by decide
  rw [introspectTables, withBookkeeping, List.filter_append,
    List.filter_cons_of_pos (by rw [hkept]; rfl), List.filter_nil, List.mapM_append]
  change ((db.tables.filter _).mapM (fun t =>
    (tableInfo env (withBookkeeping db) t).map (Table.mk t.name))).bind _ = _
  rw [hinfos']
  rfl

theorem names_eq {infos infos' : List Table} (h : List.Forall₂ SameInfo infos infos') :
    infos.map (·.name) = infos'.map (·.name) := by
  induction h with
  | nil => rfl
  | cons hsame _ ih => rw [List.map_cons, List.map_cons, hsame.1, ih]

theorem missingColumns_eq {infos infos' : List Table} (h : List.Forall₂ SameInfo infos infos')
    {required : Table} (hplain : '\'' ∉ required.name.toList)
    (hother : required.name ≠ "schema_migrations") :
    missingColumns (infos' ++ [bookkeeping]) required = missingColumns infos required := by
  induction h with
  | nil =>
      have hnone : ([bookkeeping].find? fun t => decide (t.name = required.name)) = none := by
        simpa [bookkeeping] using hother.symm
      rw [missingColumns, missingColumns, List.nil_append, hnone]
      rfl
  | @cons a b as bs hsame _ ih =>
      unfold missingColumns at ih ⊢
      rw [List.cons_append, List.find?_cons, List.find?_cons]
      by_cases hname : a.name = required.name
      · have hname' : b.name = required.name := hsame.1.symm.trans hname
        have hcolumns : a.columns = b.columns := hsame.2 (hname ▸ hplain)
        simp only [hname, hname', decide_true, hcolumns]
      · have hname' : b.name ≠ required.name := fun heq => hname (hsame.1.trans heq)
        simp only [hname, hname', decide_false]
        exact ih

theorem unsupported?_withBookkeeping {infos infos' : List Table}
    (h : List.Forall₂ SameInfo infos infos') :
    unsupported? (infos' ++ [bookkeeping]) = unsupported? infos := by
  have hrequired : ∀ required ∈ requiredColumns,
      missingColumns (infos' ++ [bookkeeping]) required = missingColumns infos required := by
    intro required hmem
    have hnames : ∀ t ∈ requiredColumns, '\'' ∉ t.name.toList ∧ t.name ≠ "schema_migrations" := by
      decide
    exact missingColumns_eq h (hnames required hmem).1 (hnames required hmem).2
  have hallowed : decide (bookkeeping.name ∈ allowedV1Tables) = true := by decide
  unfold unsupported?
  dsimp only
  rw [List.map_append, List.filter_append, ← names_eq h]
  simp only [List.map_cons, List.map_nil, List.filter_cons, hallowed, Bool.not_true,
    Bool.false_eq_true, if_false, List.filter_nil, List.append_nil]
  split
  · rfl
  · rw [List.find?_congr (fun required hmem => by rw [hrequired required hmem])]
    cases hfind : requiredColumns.find? fun required => !(missingColumns infos required).isEmpty with
    | none => rfl
    | some required =>
        rw [Option.map_some, Option.map_some, hrequired required (List.mem_of_find?_eq_some hfind)]

/-! ### Calls -/

/-- The first call refuses a legacy profile, and leaves it with `schema_migrations`. -/
theorem runMigrations_of_rejected (hnew : db.hasTable "schema_migrations" = false)
    (hlegacy : hasLegacyTables db = true) (hfree : db.occupied "schema_migrations" = false)
    (hrejected : Rejected env db) :
    ∃ reason, runMigrations env db = (withBookkeeping db, .report { errors := [reason] }) := by
  obtain ⟨infos, reason, hinfos, hreason⟩ := hrejected
  obtain ⟨infos', hinfos', hall⟩ := introspectTables_withBookkeeping hinfos
  refine ⟨reason, ?_⟩
  have hvalidate : validateAndBackfillLegacyV1 env (withBookkeeping db) baseline =
      (withBookkeeping db, .unsupported reason) := by
    rw [validateAndBackfillLegacyV1, hinfos']
    simp only [unsupported?_withBookkeeping hall, hreason]
  rw [runMigrations, runMigrationsOf, hnew, ensureMigrationsTable_of_free hfree]
  simp only [Bool.false_eq_true, if_false, hlegacy, if_true, allMigrations, hvalidate]

/-- Where SQLite takes another object for `schema_migrations`, a call changes nothing. -/
theorem runMigrations_of_occupied (hnew : db.hasTable "schema_migrations" = false)
    (hlegacy : hasLegacyTables db = true) (hoccupied : db.occupied "schema_migrations" = true)
    (hrejected : Rejected env db) :
    ∃ outcome, runMigrations env db = (db, outcome) ∧ outcome.refuses = true := by
  obtain ⟨infos, reason, hinfos, hreason⟩ := hrejected
  rw [runMigrations, runMigrationsOf, hnew, if_neg Bool.false_ne_true]
  rcases @ensureMigrationsTable_of_occupied env db hoccupied with hensure | hensure
  · have hvalidate : validateAndBackfillLegacyV1 env db baseline = (db, .unsupported reason) := by
      rw [validateAndBackfillLegacyV1, hinfos]
      simp only [hreason]
    refine ⟨.report { errors := [reason] }, ?_, rfl⟩
    rw [hensure]
    simp only [hlegacy, if_true, allMigrations, hvalidate]
  · refine ⟨.raised, ?_, rfl⟩
    rw [hensure]

/-- A profile that the check rejects stays refused exactly if it has a legacy table and
SQLite takes some other object for `schema_migrations`, so that no call creates it. -/
theorem stays_refused_iff (env : Environment) (db : Database)
    (hnew : db.hasTable "schema_migrations" = false) (hrejected : Rejected env db) :
    StaysRefused env db ↔
      hasLegacyTables db = true ∧ db.occupied "schema_migrations" = true := by
  constructor
  · intro h
    have hlegacy : hasLegacyTables db = true := (Bool.and_eq_true_iff.mp (h 0).1).2
    refine ⟨hlegacy, ?_⟩
    by_contra hfree
    obtain ⟨reason, hrun⟩ := runMigrations_of_rejected hnew hlegacy (Bool.eq_false_iff.mpr hfree)
      hrejected
    have hnext : afterCalls env db 1 = withBookkeeping db := by
      rw [afterCalls, Function.iterate_one, hrun]
    have hlegacy' := (Bool.and_eq_true_iff.mp (h 1).1).1
    have htable : (withBookkeeping db).hasTable "schema_migrations" = true := by
      rw [Database.hasTable, withBookkeeping, List.any_append]
      simp [bookkeeping]
    rw [hnext, htable] at hlegacy'
    cases hlegacy'
  · rintro ⟨hlegacy, hoccupied⟩ n
    obtain ⟨outcome, hrun, hrefuses⟩ :=
      runMigrations_of_occupied hnew hlegacy hoccupied hrejected
    have hafter : afterCalls env db n = db :=
      Function.iterate_fixed (congrArg Prod.fst hrun) n
    rw [hafter, hrun]
    refine ⟨?_, hrefuses⟩
    rw [isLegacyUnmigratedProfile, hnew, hlegacy]
    rfl

namespace Sample

def environment : Environment where
  quotedName _ := none
  rereads _ := true
  checksum _ := "0123456789abcdef"
  errorText _ := "no such table"

/-- A profile with one table too many. -/
def custom : Database where
  tables := [⟨"identity", ["username", "public_key"]⟩, ⟨"unrecognized_custom_table", ["col1"]⟩]

/-- A profile whose own bookkeeping SQLite takes for the table. -/
def capitals : Database where
  tables := [⟨"identity", ["username", "public_key"]⟩, ⟨"SCHEMA_MIGRATIONS", ["version"]⟩]

/-- A profile with the required columns of its one table and a row. -/
def sparse : Database where
  tables := [⟨"contacts", ["username", "display_name", "public_key"]⟩]
  rows := [("contacts", [.text "bob", .text "Bob", .text "1f2e"])]

/-- The runs on these profiles and on an empty database, evaluated together. -/
theorem run_facts :
    isLegacyUnmigratedProfile (afterCalls environment custom 1) = false ∧
      (runMigrations environment (afterCalls environment custom 1)).2 =
        .report { applied := [1, 2, 3, 4, 5, 6, 7, 8, 9], endingVersion := 9 } ∧
      (runMigrations environment { tables := [] }).2 =
        .report { applied := [1, 2, 3, 4, 5, 6, 7, 8, 9], endingVersion := 9 } ∧
      (runMigrations environment sparse).2 =
        .report { applied := [1, 2, 3, 4, 5, 6, 7, 8, 9], startingVersion := 1,
                  endingVersion := 9 } := by
  decide +kernel

theorem custom_rejected : Rejected environment custom :=
  ⟨_, _, rfl, rfl⟩

theorem capitals_rejected : Rejected environment capitals :=
  ⟨_, _, rfl, rfl⟩

end Sample

theorem capitals_stay_refused : StaysRefused Sample.environment Sample.capitals :=
  (stays_refused_iff Sample.environment Sample.capitals (by decide) Sample.capitals_rejected).mpr
    ⟨by decide, by decide⟩

/-- The profile with the unrecognized table is refused once; the second call applies every
migration. -/
theorem custom_migrated_by_second_call :
    Rejected Sample.environment Sample.custom ∧
      ¬StaysRefused Sample.environment Sample.custom ∧
      (runMigrations Sample.environment (afterCalls Sample.environment Sample.custom 1)).2 =
        .report { applied := [1, 2, 3, 4, 5, 6, 7, 8, 9], endingVersion := 9 } := by
  refine ⟨Sample.custom_rejected, fun h => ?_, Sample.run_facts.2.1⟩
  have hlegacy := (h 1).1
  rw [Sample.run_facts.1] at hlegacy
  cases hlegacy

end Kin.Storage.Migrations
