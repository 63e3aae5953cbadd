import Kin.Storage.LegacyRefusal
import Kin.Storage.Scripts

/-!
Profiles of the first version and what the migrations make of them. A legacy table is taken over
with the columns it has, once it has the required ones, and the baseline creates only the tables
that are not there; `tasks` alone gets its missing columns.
-/

namespace Kin.Storage.Migrations

variable {env : Environment} {db after fresh : Database}

/-! ### Legacy profiles -/

/-- A database of the first version: some of its tables, with the required columns at least. -/
structure LegacyV1 (db : Database) : Prop where
  names : ∀ t ∈ db.tables, t.name ∈ allowedV1Tables ∧ t.name ≠ "schema_migrations"
  distinct : (db.tables.map (·.name)).Nodup
  required : ∀ r ∈ requiredColumns, ∀ t ∈ db.tables, t.name = r.name → ∀ c ∈ r.columns, c ∈ t.columns
  views : db.views = []

/-- `run_migrations` reports no error and leaves this database. -/
def Succeeds (env : Environment) (db after : Database) : Prop :=
  ∃ report, runMigrations env db = (after, .report report) ∧ report.errors = []

/-- The profile is migrated: it has the tables and columns of a fresh one, its rows, and nothing
is left to do. -/
structure Migrated (env : Environment) (fresh db after : Database) : Prop where
  complete : ∀ t ∈ fresh.tables, ∃ t' ∈ after.tables, t'.name = t.name ∧
    ∀ c ∈ t.columns, t'.hasColumn c = true
  columns : ∀ t ∈ db.tables, ∃ t' ∈ after.tables, t'.name = t.name ∧ t.columns <+: t'.columns
  rows : KeepsRows db.rows after.rows
  again : ∃ report, runMigrations env after = (after, .report report) ∧ report.applied = [] ∧
    report.errors = []

/-- The columns of the baseline that the check does not ask for and no migration adds. -/
def uncheckedColumns : List Table :=
  [⟨"identity", ["keychain_ref", "protocol_version"]⟩,
   ⟨"contacts", ["x25519_public_key", "endpoint", "autonomy_level", "fingerprint_verified_at"]⟩]

/-- The legacy tables have them. -/
def HasUncheckedColumns (db : Database) : Prop :=
  ∀ u ∈ uncheckedColumns, ∀ t ∈ db.tables, t.name = u.name → ∀ c ∈ u.columns, t.hasColumn c = true

/-! ### The migrations by name -/

def baselineTables : List Table :=
  [⟨"identity", ["username", "public_key", "keychain_ref", "protocol_version"]⟩,
   ⟨"contacts", ["username", "display_name", "public_key", "x25519_public_key", "endpoint",
     "autonomy_level", "fingerprint_verified_at"]⟩,
   ⟨"tasks", ["task_id", "contact_username", "goal", "context_json", "status", "created_at",
     "updated_at", "result_json", "draft_content", "draft_message_type", "agent_name",
     "peer_agent_name", "peer_task_id", "origin_ref_id"]⟩,
   ⟨"messages", ["message_id", "task_id", "from_username", "content", "message_type",
     "created_at", "signature"]⟩,
   ⟨"settings", ["key", "value"]⟩,
   ⟨"processed_relay_messages", ["message_id", "processed_at"]⟩]

theorem migration0001_eq :
    migration0001 = baselineTables.map fun t => .createTable t.name t.columns := rfl

def laterScript : List Statement := allMigrations.tail.flatMap (·.up)

def laterTables : List Table := scriptTables [] laterScript

theorem allMigrations_up : allMigrations.flatMap (·.up) = migration0001 ++ laterScript := rfl

theorem known_allMigrations : ∀ m ∈ allMigrations, ∀ s ∈ m.up, s.known = true := by
  have hall : (allMigrations.all fun m => m.up.all Statement.known) = true := rfl
  simpa [List.all_eq_true] using hall

theorem names_facts :
    (laterScript.all fun s => allowedV1Tables.all fun name => !s.touches name) = true ∧
      (laterTables.all fun t => !allowedV1Tables.contains t.name) = true ∧
      (allowedV1Tables.all fun a => allowedV1Tables.all fun b => !sameName a b || a == b) = true ∧
      baselineTables.Pairwise (fun a b => sameName a.name b.name = false) ∧
      (baselineTables.all fun b => allowedV1Tables.contains b.name &&
        b.name != "schema_migrations" && b.columns.all fun c =>
          requiredColumns.any (fun r => r.name == b.name && r.columns.contains c) ||
            uncheckedColumns.any (fun u => u.name == b.name && u.columns.contains c) ||
              b.name == "tasks" && optionalTaskColumns.contains c) = true := by
  decide +kernel

theorem touches_of_later {s : Statement} (hs : s ∈ laterScript) {t : Table}
    (ht : t.name ∈ allowedV1Tables) : s.touches t.name = false := by
  have hfacts := List.all_eq_true.mp names_facts.1 s hs
  simpa using List.all_eq_true.mp hfacts t.name ht

theorem eq_of_sameName {a b : String} (ha : a ∈ allowedV1Tables) (hb : b ∈ allowedV1Tables)
    (h : sameName a b = true) : a = b := by
  have hfacts := List.all_eq_true.mp (List.all_eq_true.mp names_facts.2.2.1 a ha) b hb
  simpa [h] using hfacts

theorem name_of_baseline {b : Table} (hb : b ∈ baselineTables) :
    b.name ∈ allowedV1Tables ∧ b.name ≠ "schema_migrations" := by
  have hfacts := List.all_eq_true.mp names_facts.2.2.2.2 b hb
  simp only [Bool.and_eq_true, bne_iff_ne, List.contains_iff_mem] at hfacts
  exact hfacts.1

/-- A column of the baseline is required, or not checked, or one of the optional ones of
`tasks`. -/
theorem column_of_baseline {b : Table} (hb : b ∈ baselineTables) {c : String} (hc : c ∈ b.columns) :
    (∃ r ∈ requiredColumns, r.name = b.name ∧ c ∈ r.columns) ∨
      (∃ u ∈ uncheckedColumns, u.name = b.name ∧ c ∈ u.columns) ∨
        b.name = "tasks" ∧ c ∈ optionalTaskColumns := by
  have hfacts := List.all_eq_true.mp names_facts.2.2.2.2 b hb
  rw [Bool.and_eq_true] at hfacts
  have hcolumn := List.all_eq_true.mp hfacts.2 c hc
  simpa [List.any_eq_true, or_assoc] using hcolumn

/-! ### The loop -/

/-- The row of `schema_migrations` for a migration. -/
def recordOf (env : Environment) (m : Migration) : AppliedMigration :=
  ⟨m.version, m.name, env.checksum m.version⟩

inductive Applies (env : Environment) : Database → List Migration → Database → Prop
  | nil (db : Database) : Applies env db [] db
  | cons {db next recorded after : Database} {m : Migration} {migrations : List Migration}
      (hscript : executescript env db m.up = (next, true))
      (hrecord : recordMigration env next m = some recorded)
      (hrest : Applies env recorded migrations after) : Applies env db (m :: migrations) after

theorem recordMigration_eq {db' : Database} {m : Migration} (h : recordMigration env db m = some db') :
    ∃ rows, db.applied = some rows ∧
      db' = { db with applied := some (rows ++ [recordOf env m]) } := by
  rw [recordMigration] at h
  split at h
  · rename_i rows _ hrows
    cases h
    exact ⟨rows, hrows, rfl⟩
  · cases h

theorem Applies.goes {migrations : List Migration} (h : Applies env db migrations after)
    (hviews : db.views = []) (hknown : ∀ m ∈ migrations, ∀ s ∈ m.up, s.known = true)
    {rows : List AppliedMigration} (hrows : db.applied = some rows) :
    after.tables = scriptTables db.tables (migrations.flatMap (·.up)) ∧ after.views = [] ∧
      after.applied = some (rows ++ migrations.map (recordOf env)) ∧
        KeepsRows db.rows after.rows := by
  induction h generalizing rows with
  | nil db => exact ⟨rfl, hviews, by simpa using hrows, .refl _⟩
  | cons hscript hrecord _ ih =>
      have hgoes := goes_of_executescript hviews (hknown _ (by simp)) hscript
      obtain ⟨rows', hrows', rfl⟩ := recordMigration_eq hrecord
      rw [hgoes.applied, hrows] at hrows'
      cases hrows'
      obtain ⟨htables, hviews', happlied, hkeeps⟩ :=
        ih hgoes.views (fun m hm => hknown m (by simp [hm])) rfl
      refine ⟨?_, hviews', ?_, hgoes.rows.trans hkeeps⟩
      · rw [htables, hgoes.tables, List.flatMap_cons, scriptTables_append]
      · rw [happlied, List.map_cons, List.append_assoc, List.singleton_append]

theorem applies_of_applyPending {rows : List AppliedMigration} {report : MigrationReport}
    {migrations : List Migration}
    (h : (applyPending env rows db report migrations).2.errors = report.errors) :
    Applies env db (migrations.filter fun m => !(recorded? rows m).isSome)
      (applyPending env rows db report migrations).1 := by
  induction migrations generalizing db report with
  | nil => exact .nil db
  | cons m migrations ih =>
      simp only [applyPending] at h ⊢
      cases hrecorded : (recorded? rows m).isSome with
      | true =>
          rw [List.filter_cons_of_neg (by simp [hrecorded])]
          simp only [hrecorded, if_true] at h ⊢
          exact ih h
      | false =>
          rw [List.filter_cons_of_pos (by simp [hrecorded])]
          simp only [hrecorded, Bool.false_eq_true, if_false] at h ⊢
          cases hscript : executescript env db m.up with
          | mk next through =>
              rw [hscript] at h
              cases through with
              | false => simp at h
              | true =>
                  dsimp only at h ⊢
                  cases hrecord : recordMigration env next m with
                  | none => simp [hrecord] at h
                  | some recorded =>
                      simp only [hrecord] at h ⊢
                      exact .cons hscript hrecord (ih h)

/-- Migrations that are all recorded are skipped. -/
theorem applyPending_of_recorded {rows : List AppliedMigration} (report : MigrationReport)
    {migrations : List Migration} (h : ∀ m ∈ migrations, (recorded? rows m).isSome = true) :
    applyPending env rows db report migrations = (db, report) := by
  induction migrations with
  | nil => rfl
  | cons m migrations ih =>
      rw [applyPending, if_pos (h m (by simp))]
      exact ih fun m' hm' => h m' (by simp [hm'])

theorem detectDrift_of_recorded {rows : List AppliedMigration} (report : MigrationReport)
    {migrations : List Migration}
    (h : ∀ m ∈ migrations, recorded? rows m = some (env.checksum m.version)) :
    ∃ skipped, detectDrift env rows report migrations = .ok { report with skipped } := by
  induction migrations generalizing report with
  | nil => exact ⟨_, rfl⟩
  | cons m migrations ih =>
      rw [detectDrift, h m (by simp)]
      simp only [ne_eq, not_true, if_false]
      split
      · exact ih _ fun m' hm' => h m' (by simp [hm'])
      · exact ih _ fun m' hm' => h m' (by simp [hm'])

theorem errors_of_detectDrift (env : Environment) (rows : List AppliedMigration)
    (report : MigrationReport) (migrations : List Migration) :
    match detectDrift env rows report migrations with
    | .error result => result.errors ≠ []
    | .ok result => result.errors = report.errors := by
  induction migrations generalizing report with
  | nil => rfl
  | cons m migrations ih =>
      rw [detectDrift]
      cases recorded? rows m with
      | none => exact ih report
      | some stored =>
          dsimp only
          by_cases hsame : stored ≠ env.checksum m.version
          · rw [if_pos hsame]
            simp
          · rw [if_neg hsame]
            by_cases hold : m.version ∈ report.applied
            · rw [if_pos hold]
              exact ih report
            · rw [if_neg hold]
              exact ih { report with skipped := report.skipped ++ [m.version] }

theorem applies_of_runNumbered {report result : MigrationReport} {rows : List AppliedMigration}
    (hrows : db.applied = some rows) (hreport : report.errors = [])
    (h : runNumbered env allMigrations db report = (after, .report result))
    (hresult : result.errors = []) :
    Applies env db (allMigrations.filter fun m => !(recorded? rows m).isSome) after := by
  rw [runNumbered, hrows] at h
  dsimp only at h
  have hdrift := errors_of_detectDrift env rows
    { report with startingVersion := maxVersion rows } allMigrations
  split at h
  · rename_i drifted hdrifted
    cases h
    rw [hdrifted] at hdrift
    exact absurd hresult hdrift
  rename_i checked hchecked
  rw [hchecked] at hdrift
  cases h
  refine applies_of_applyPending ?_
  rw [hdrift]
  exact hresult.trans hreport.symm

/-! ### The check of a legacy profile -/

/-- The optional columns that `tasks` lacks. -/
def missingTaskColumns (tables : List Table) : List String :=
  match tables.find? fun t => decide (t.name = "tasks") with
  | none => []
  | some t => optionalTaskColumns.filter fun c => !decide (c ∈ t.columns)

/-- What is done to `tasks` before the baseline. -/
def alterTasks (tables : List Table) : List Statement :=
  (missingTaskColumns tables).map fun column => .addColumn "tasks" column

/-- Tables with the names of the first version are found with their columns. -/
theorem introspectTables_eq (env : Environment) (h : ∀ t ∈ db.tables, t.name ∈ allowedV1Tables) :
    introspectTables env db = some db.tables := by
  have hnames : ∀ name ∈ allowedV1Tables, '\'' ∉ name.toList ∧
      ("sqlite_".toList.isPrefixOf name.toList) = false := by
    decide
  have hkept : (db.tables.filter fun t => !"sqlite_".toList.isPrefixOf t.name.toList) =
      db.tables := by
    rw [List.filter_eq_self]
    intro t ht
    rw [(hnames t.name (h t ht)).2]
    rfl
  have hinfo : ∀ t ∈ db.tables, tableInfo env db t = some t.columns := by
    intro t ht
    rw [tableInfo, if_neg (hnames t.name (h t ht)).1]
  rw [introspectTables, hkept]
  generalize db.tables = tables at hinfo ⊢
  induction tables with
  | nil => rfl
  | cons t tables ih =>
      rw [List.mapM_cons, hinfo t (by simp), ih fun t' ht' => hinfo t' (by simp [ht'])]
      rfl

theorem find?_of_distinct {tables : List Table} {t : Table} {name : String}
    (hdistinct : (tables.map (·.name)).Nodup) (ht : t ∈ tables) (hname : t.name = name) :
    (tables.find? fun t => decide (t.name = name)) = some t := by
  cases hfind : tables.find? fun t => decide (t.name = name) with
  | none => exact absurd (by simpa using hname) (List.find?_eq_none.mp hfind t ht)
  | some t' =>
      have hname' : t'.name = name := by simpa using List.find?_some hfind
      rw [List.inj_on_of_nodup_map hdistinct (List.mem_of_find?_eq_some hfind) ht
        (hname'.trans hname.symm)]

theorem LegacyV1.names_withBookkeeping (h : LegacyV1 db) :
    ∀ t ∈ (withBookkeeping db).tables, t.name ∈ allowedV1Tables := by
  intro t ht
  rcases List.mem_append.mp ht with ht | ht
  · exact (h.names t ht).1
  · cases List.mem_singleton.mp ht
    decide

/-- The tables of the first version are no obstacle to `schema_migrations`. -/
theorem LegacyV1.ensureMigrationsTable (env : Environment) (h : LegacyV1 db) :
    ensureMigrationsTable env db = none ∨
      ensureMigrationsTable env db = some (withBookkeeping db) := by
  have htable : db.table? "schema_migrations" = none := by
    rw [Database.table?, List.find?_eq_none]
    intro t ht hsame
    exact (h.names t ht).2 (eq_of_sameName (h.names t ht).1 (by decide) hsame)
  have hview : db.hasView "schema_migrations" = false := by simp [Database.hasView, h.views]
  cases hindex : db.hasIndex "schema_migrations" with
  | true =>
      left
      simp [Migrations.ensureMigrationsTable, exec, htable, hview, hindex]
  | false =>
      right
      apply ensureMigrationsTable_of_free
      simp [Database.occupied, htable, hview, hindex]

theorem missingTaskColumns_append (tables : List Table) :
    missingTaskColumns (tables ++ [bookkeeping]) = missingTaskColumns tables := by
  have hnone : ([bookkeeping].find? fun t => decide (t.name = "tasks")) = none := by decide
  rw [missingTaskColumns, missingTaskColumns, List.find?_append, hnone, Option.or_none]

theorem known_alterTasks (tables : List Table) : ∀ s ∈ alterTasks tables, s.known = true := by
  intro s hs
  obtain ⟨column, -, rfl⟩ := List.mem_map.mp hs
  rfl

/-- A profile that was backfilled has `tasks` altered and the baseline applied and recorded. -/
theorem backfilled {filled : Database} {tables : List Table} {m1 : Migration}
    (hintrospect : introspectTables env db = some tables)
    (h : validateAndBackfillLegacyV1 env db m1 = (filled, .done)) :
    ∃ altered next, executescript env db (alterTasks tables) = (altered, true) ∧
      executescript env altered m1.up = (next, true) ∧
        recordMigration env next m1 = some filled := by
  rw [validateAndBackfillLegacyV1, hintrospect] at h
  dsimp only at h
  split at h
  · cases h
  split at h
  · cases h
  rename_i altered halter
  split at h
  · cases h
  rename_i next hscript
  split at h
  · cases h
  rename_i recorded hrecord
  cases h
  exact ⟨altered, next, halter, hscript, hrecord⟩

/-- A run that reports no error has altered `tasks` and applied every migration. -/
theorem LegacyV1.applies (h : LegacyV1 db) (hok : Succeeds env db after) :
    ∃ altered, executescript env (withBookkeeping db) (alterTasks db.tables) = (altered, true) ∧
      Applies env altered allMigrations after := by
  obtain ⟨report, hrun, herrors⟩ := hok
  have hnew : db.hasTable "schema_migrations" = false := by
    rw [Database.hasTable, List.any_eq_false]
    intro t ht
    simpa using (h.names t ht).2
  rw [runMigrations, runMigrationsOf, hnew, if_neg Bool.false_ne_true] at hrun
  rcases h.ensureMigrationsTable env with hensure | hensure
  · rw [hensure] at hrun
    cases hrun
  rw [hensure] at hrun
  dsimp only at hrun
  cases hlegacy : hasLegacyTables db with
  | false =>
      rw [hlegacy, if_neg Bool.false_ne_true] at hrun
      have hnone : alterTasks db.tables = [] := by
        have htasks : db.hasTable "tasks" = false := by
          rw [hasLegacyTables, List.any_eq_false] at hlegacy
          simpa using hlegacy "tasks" (by decide)
        rw [Database.hasTable, List.any_eq_false] at htasks
        rw [alterTasks, missingTaskColumns, List.find?_eq_none.mpr htasks]
        rfl
      have hpending : (allMigrations.filter fun m => !(recorded? [] m).isSome) = allMigrations := rfl
      rw [hnone, ← hpending]
      exact ⟨_, rfl, applies_of_runNumbered rfl rfl hrun herrors⟩
  | true =>
      rw [hlegacy, if_pos rfl] at hrun
      have hintrospect := introspectTables_eq env h.names_withBookkeeping
      simp only [allMigrations] at hrun
      split at hrun
      · cases hrun
      · cases hrun
        cases herrors
      rename_i filled hfilled
      obtain ⟨altered, next, halter, hscript, hrecord⟩ := backfilled hintrospect hfilled
      have htables : (withBookkeeping db).tables = db.tables ++ [bookkeeping] := rfl
      rw [alterTasks, htables, missingTaskColumns_append] at halter
      refine ⟨altered, halter, ?_⟩
      -- the rows of `schema_migrations` are those of the backfill
      have hviews : (withBookkeeping db).views = [] := h.views
      have haltered := goes_of_executescript hviews (known_alterTasks _) halter
      have hbaseline := goes_of_executescript haltered.views
        (known_allMigrations baseline (by simp [allMigrations])) hscript
      obtain ⟨rows, hrows, hrecorded⟩ := recordMigration_eq hrecord
      rw [hbaseline.applied, haltered.applied] at hrows
      cases hrows
      refine .cons hscript hrecord ?_
      have hpending : (allMigrations.filter fun m =>
          !(recorded? [recordOf env baseline] m).isSome) = allMigrations.tail := rfl
      rw [List.nil_append] at hrecorded
      have happlied : filled.applied = some [recordOf env baseline] := by rw [hrecorded]
      have hrest := applies_of_runNumbered happlied rfl hrun herrors
      rw [hpending] at hrest
      exact hrest

/-! ### The migrated tables -/

/-- A table with the columns that `tasks` gets. -/
def altered (tables : List Table) (t : Table) : Table :=
  if sameName t.name "tasks" then { t with columns := t.columns ++ missingTaskColumns tables } else t

theorem altered_name (tables : List Table) (t : Table) : (altered tables t).name = t.name := by
  unfold altered
  split <;> rfl

theorem altered_columns (tables : List Table) (t : Table) :
    t.columns <+: (altered tables t).columns := by
  unfold altered
  split
  · exact List.prefix_append ..
  · exact List.prefix_refl _

structure Upgraded (env : Environment) (db after : Database) : Prop where
  mem : ∀ t, t ∈ after.tables ↔
    t ∈ ((withBookkeeping db).tables.map (altered db.tables)) ∨
      t ∈ baselineTables ∧
          ((withBookkeeping db).tables.any fun old => sameName old.name t.name) = false ∨
        t ∈ laterTables
  applied : after.applied = some (allMigrations.map (recordOf env))
  rows : KeepsRows db.rows after.rows

theorem LegacyV1.upgraded (h : LegacyV1 db) (hok : Succeeds env db after) : Upgraded env db after := by
  obtain ⟨middle, halter, happlies⟩ := h.applies hok
  have hviews : (withBookkeeping db).views = [] := h.views
  have haltered := goes_of_executescript hviews (known_alterTasks _) halter
  obtain ⟨htables, -, happlied, hrows⟩ :=
    happlies.goes haltered.views known_allMigrations haltered.applied
  have hmiddle : middle.tables = (withBookkeeping db).tables.map (altered db.tables) := by
    rw [haltered.tables, alterTasks, scriptTables_addColumns]
    rfl
  have hany : ∀ name, (middle.tables.any fun old => sameName old.name name) =
      (withBookkeeping db).tables.any fun old => sameName old.name name := by
    intro name
    rw [hmiddle, List.any_map]
    simp [Function.comp_def, altered_name]
  have hcreated := mem_created names_facts.2.2.2.1 middle.tables
  rw [← migration0001_eq] at hcreated
  -- the later statements are about none of these tables
  have hfront : ∀ s ∈ laterScript, ∀ t ∈ scriptTables middle.tables migration0001,
      s.touches t.name = false := by
    intro s hs t ht
    apply touches_of_later hs
    rcases (hcreated t).mp ht with ht | ht
    · rw [hmiddle] at ht
      obtain ⟨old, hold, rfl⟩ := List.mem_map.mp ht
      rw [altered_name]
      exact h.names_withBookkeeping old hold
    · exact (name_of_baseline ht.1).1
  have hlater := scriptTables_append_front [] hfront
  rw [List.append_nil] at hlater
  refine ⟨fun t => ?_, happlied, haltered.rows.trans hrows⟩
  rw [htables, allMigrations_up, scriptTables_append, hlater, List.mem_append, hcreated, hany,
    hmiddle, or_assoc]
  rfl

theorem legacyV1_empty : LegacyV1 { tables := [] } where
  names := by simp
  distinct := List.nodup_nil
  required := by simp
  views := rfl

theorem mem_of_kept {t : Table} (h : Upgraded env db after) (ht : t ∈ db.tables) :
    altered db.tables t ∈ after.tables :=
  (h.mem _).mpr (.inl (List.mem_map_of_mem (List.mem_append_left _ ht)))

theorem bookkeeping_mem (h : Upgraded env db after) : bookkeeping ∈ after.tables := by
  have hsame : altered db.tables bookkeeping = bookkeeping := by
    rw [altered, if_neg (by decide)]
  rw [h.mem, ← hsame]
  exact .inl (List.mem_map_of_mem (List.mem_append_right _ (List.mem_singleton_self _)))

theorem baseline_mem_fresh {b : Table} (h : Upgraded env { tables := [] } fresh)
    (hb : b ∈ baselineTables) : b ∈ fresh.tables := by
  refine (h.mem b).mpr (.inr (.inl ⟨hb, ?_⟩))
  rw [List.any_eq_false]
  intro old hold hsame
  cases List.mem_singleton.mp hold
  exact (name_of_baseline hb).2 (eq_of_sameName (by decide) (name_of_baseline hb).1 hsame).symm

/-- Every migration is recorded, so a further call finds nothing to do. -/
theorem Upgraded.again (h : Upgraded env db after) :
    ∃ report, runMigrations env after = (after, .report report) ∧ report.applied = [] ∧
      report.errors = [] := by
  have hthere : after.hasTable "schema_migrations" = true :=
    List.any_eq_true.mpr ⟨bookkeeping, bookkeeping_mem h, by decide⟩
  have hrecorded : ∀ m ∈ allMigrations,
      recorded? (allMigrations.map (recordOf env)) m = some (env.checksum m.version) := by
    intro m hm
    simp only [allMigrations, List.mem_cons, List.not_mem_nil, or_false] at hm
    rcases hm with rfl | rfl | rfl | rfl | rfl | rfl | rfl | rfl | rfl <;> rfl
  have hskipped : ∀ m ∈ allMigrations,
      (recorded? (allMigrations.map (recordOf env)) m).isSome = true := by
    intro m hm
    rw [hrecorded m hm]
    rfl
  obtain ⟨skipped, hdrift⟩ := detectDrift_of_recorded
    { startingVersion := maxVersion (allMigrations.map (recordOf env)) } hrecorded
  rw [runMigrations, runMigrationsOf, if_pos hthere, runNumbered, h.applied]
  dsimp only
  rw [hdrift]
  dsimp only
  rw [applyPending_of_recorded _ hskipped]
  exact ⟨_, rfl, rfl, rfl⟩

/-- The columns of a baseline table in a legacy table that has the unchecked ones. -/
theorem hasColumn_altered {b t : Table} {c : String} (hlegacy : LegacyV1 db)
    (hunchecked : HasUncheckedColumns db) (hb : b ∈ baselineTables) (ht : t ∈ db.tables)
    (hname : t.name = b.name) (hc : c ∈ b.columns) :
    (altered db.tables t).hasColumn c = true := by
  have hkept : t.hasColumn c = true → (altered db.tables t).hasColumn c = true := by
    intro hthere
    obtain ⟨c', hc', hsame⟩ := List.any_eq_true.mp hthere
    exact List.any_eq_true.mpr ⟨c', (altered_columns db.tables t).subset hc', hsame⟩
  rcases column_of_baseline hb hc with ⟨r, hr, hrname, hcr⟩ | ⟨u, hu, huname, hcu⟩ | ⟨htasks, hopt⟩
  · have hthere := hlegacy.required r hr t ht (hname.trans hrname.symm) c hcr
    exact hkept (Table.hasColumn_of_mem hthere)
  · exact hkept (hunchecked u hu t ht (hname.trans huname.symm) c hcu)
  · by_cases hthere : c ∈ t.columns
    · exact hkept (Table.hasColumn_of_mem hthere)
    -- `tasks` lacks the column, so it is among those that are added
    have hfind : (db.tables.find? fun t => decide (t.name = "tasks")) = some t :=
      find?_of_distinct hlegacy.distinct ht (hname.trans htasks)
    have hmissing : c ∈ missingTaskColumns db.tables := by
      rw [missingTaskColumns, hfind]
      simpa [hopt] using hthere
    rw [altered, if_pos (by rw [hname.trans htasks]; exact sameName_refl _)]
    exact Table.hasColumn_of_mem (List.mem_append_right _ hmissing)

/-- A profile without the unchecked columns keeps lacking them. -/
theorem hasUnchecked_of_complete (hfresh : Upgraded env { tables := [] } fresh)
    (hlegacy : LegacyV1 db) (h : Upgraded env db after)
    (hcomplete : ∀ t ∈ fresh.tables, ∃ t' ∈ after.tables, t'.name = t.name ∧
      ∀ c ∈ t.columns, t'.hasColumn c = true) : HasUncheckedColumns db := by
  have hbaseline : ∀ u ∈ uncheckedColumns, u.name ≠ "tasks" ∧
      ∃ b ∈ baselineTables, b.name = u.name ∧ ∀ c ∈ u.columns, c ∈ b.columns := by
    decide
  intro u hu t ht hname c hc
  obtain ⟨hnotTasks, b, hb, hbname, hcolumns⟩ := hbaseline u hu
  obtain ⟨t', ht', hname', hall⟩ := hcomplete b (baseline_mem_fresh hfresh hb)
  have hallowed : t.name ∈ allowedV1Tables := (hlegacy.names t ht).1
  rcases (h.mem t').mp ht' with hkept | ⟨-, hcreated⟩ | hlater
  · obtain ⟨old, hold, rfl⟩ := List.mem_map.mp hkept
    rw [altered_name, hbname, ← hname] at hname'
    have hsame : old = t := by
      rcases List.mem_append.mp hold with hold | hold
      · exact List.inj_on_of_nodup_map hlegacy.distinct hold ht hname'
      · cases List.mem_singleton.mp hold
        exact absurd hname'.symm (hlegacy.names t ht).2
    have hunaltered : altered db.tables t = t := by
      rw [altered, if_neg]
      intro htasks
      exact hnotTasks (hname.symm.trans (eq_of_sameName hallowed (by decide) htasks))
    have hcolumn := hall c (hcolumns c hc)
    rwa [hsame, hunaltered] at hcolumn
  · -- a table of this name is there, so the baseline does not create one
    rw [List.any_eq_false] at hcreated
    refine absurd ?_ (hcreated t (List.mem_append_left _ ht))
    rw [hname', hbname, hname]
    exact sameName_refl _
  · have hnone := List.all_eq_true.mp names_facts.2.1 t' hlater
    rw [hname', hbname, ← hname, List.contains_iff_mem.mpr hallowed] at hnone
    cases hnone

theorem succeeds_of_report {report : MigrationReport}
    (h : (runMigrations env db).2 = .report report) (hnone : report.errors = []) :
    Succeeds env db (runMigrations env db).1 :=
  ⟨report, Prod.ext rfl h, hnone⟩

namespace Sample

theorem empty_succeeds :
    Succeeds environment { tables := [] } (runMigrations environment { tables := [] }).1 :=
  succeeds_of_report run_facts.2.2.1 rfl

theorem sparse_succeeds : Succeeds environment sparse (runMigrations environment sparse).1 :=
  succeeds_of_report run_facts.2.2.2 rfl

theorem sparse_legacy : LegacyV1 sparse where
  names := by decide
  distinct := by decide
  required := by decide
  views := rfl

end Sample

/-- Where no error is reported, a legacy profile is migrated exactly if its `identity` and
`contacts`, as far as they are there, have the columns that the check does not ask for. -/
theorem migrated_complete_iff (env : Environment) (fresh db after : Database)
    (hfresh : Succeeds env { tables := [] } fresh) (hlegacy : LegacyV1 db)
    (hok : Succeeds env db after) :
    Migrated env fresh db after ↔ HasUncheckedColumns db := by
  have hempty := legacyV1_empty.upgraded hfresh
  have hafter := hlegacy.upgraded hok
  constructor
  · intro h
    exact hasUnchecked_of_complete hempty hlegacy hafter h.complete
  intro hunchecked
  refine ⟨?_, ?_, hafter.rows, hafter.again⟩
  · intro t ht
    rcases (hempty.mem t).mp ht with hbooks | ⟨hb, -⟩ | hlater
    · obtain ⟨books, hmem, rfl⟩ := List.mem_map.mp hbooks
      cases List.mem_singleton.mp hmem
      refine ⟨bookkeeping, bookkeeping_mem hafter, (altered_name _ _).symm, ?_⟩
      decide
    · by_cases hthere : ∃ old ∈ db.tables, old.name = t.name
      · obtain ⟨old, hold, hname⟩ := hthere
        refine ⟨_, mem_of_kept hafter hold, (altered_name _ _).trans hname, ?_⟩
        intro c hc
        exact hasColumn_altered hlegacy hunchecked hb hold hname hc
      · refine ⟨t, (hafter.mem t).mpr (.inr (.inl ⟨hb, ?_⟩)), rfl, ?_⟩
        · rw [List.any_eq_false]
          intro old hold hsame
          have hname := eq_of_sameName (hlegacy.names_withBookkeeping old hold)
            (name_of_baseline hb).1 hsame
          rcases List.mem_append.mp hold with hold | hold
          · exact hthere ⟨old, hold, hname⟩
          · cases List.mem_singleton.mp hold
            exact (name_of_baseline hb).2 hname.symm
        · intro c hc
          exact Table.hasColumn_of_mem hc
    · refine ⟨t, (hafter.mem t).mpr (.inr (.inr hlater)), rfl, ?_⟩
      intro c hc
      exact Table.hasColumn_of_mem hc
  · intro t ht
    exact ⟨_, mem_of_kept hafter ht, altered_name _ _, altered_columns _ _⟩

/-- A profile whose `contacts` has the required columns only is reported as migrated, and lacks
four columns of a fresh one. -/
theorem sparse_contacts_incomplete :
    ∃ fresh after, Succeeds Sample.environment { tables := [] } fresh ∧ LegacyV1 Sample.sparse ∧
      Succeeds Sample.environment Sample.sparse after ∧
        ¬Migrated Sample.environment fresh Sample.sparse after := by
  refine ⟨_, _, Sample.empty_succeeds, Sample.sparse_legacy, Sample.sparse_succeeds, ?_⟩
  intro h
  have hunchecked : HasUncheckedColumns Sample.sparse :=
    hasUnchecked_of_complete (legacyV1_empty.upgraded Sample.empty_succeeds) Sample.sparse_legacy
      (Sample.sparse_legacy.upgraded Sample.sparse_succeeds) h.complete
  have hcolumn : Table.hasColumn ⟨"contacts", ["username", "display_name", "public_key"]⟩
      "endpoint" = true :=
    hunchecked _ (List.mem_cons_of_mem _ (List.mem_singleton_self _)) _ (List.mem_singleton_self _)
      rfl "endpoint" (by decide)
  exact absurd hcolumn (by decide)

theorem sparse_migrated_iff :
    Migrated Sample.environment (runMigrations Sample.environment { tables := [] }).1
        Sample.sparse (runMigrations Sample.environment Sample.sparse).1 ↔
      HasUncheckedColumns Sample.sparse :=
  migrated_complete_iff Sample.environment _ Sample.sparse _ Sample.empty_succeeds
    Sample.sparse_legacy Sample.sparse_succeeds

end Kin.Storage.Migrations
