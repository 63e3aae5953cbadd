import Kin.Lib.Autocommit
import Kin.Storage.LegacyRefusal

/-!
A migration that fails. The runner begins a transaction for it and rolls back, but the script of
the migration commits that transaction before its first statement, so what it has executed stays.
-/

namespace Kin.Storage.Migrations

open Kin.Lib

variable {env : Environment}

/-! ### The connection -/

/-- The `try` block for a pending migration; whether it went through. -/
def attempt (env : Environment) (c : Connection Database) (m : Migration) :
    Connection Database × Bool :=
  match c.begin? with
  | none => (c.rollback, false)
  | some c =>
      match c.executescript (exec env) m.up with
      | (c, false) => (c.rollback, false)
      | (c, true) =>
          match c.execute? fun db => recordMigration env db m with
          | none => (c.rollback, false)
          | some c => (c.commit, true)

theorem executescript_eq (db : Database) (script : List Statement) :
    executescript env db script = Connection.autocommit (exec env) db script := by
  induction script generalizing db with
  | nil => rfl
  | cons statement script ih =>
      simp only [executescript, Connection.autocommit]
      cases exec env db statement with
      | none => rfl
      | some next => exact ih next

/-- The block keeps what the script executed, and records the migration if all of it ran. -/
theorem attempt_idle (db : Database) (m : Migration) :
    attempt env ⟨db, none⟩ m =
      match executescript env db m.up with
      | (db, false) => (⟨db, none⟩, false)
      | (db, true) =>
          match recordMigration env db m with
          | none => (⟨db, none⟩, false)
          | some db => (⟨db, none⟩, true) := by
  rw [executescript_eq]
  simp only [attempt, Connection.begin?_idle, Connection.executescript_begun]
  cases hscript : Connection.autocommit (exec env) db m.up with
  | mk next through =>
      cases through with
      | false => rfl
      | true =>
          simp only [Connection.execute?, Connection.current, Option.getD_none]
          cases recordMigration env next m <;> rfl

/-! ### The loop -/

def failure? (env : Environment) (rows : List AppliedMigration) :
    Database → List Migration → Option (Database × Migration)
  | _, [] => none
  | db, m :: ms =>
      if (recorded? rows m).isSome then failure? env rows db ms
      else
        match attempt env ⟨db, none⟩ m with
        | (_, false) => some (db, m)
        | (c, true) => failure? env rows c.committed ms

/-- The database with which the loop starts, and the rows it has read of `schema_migrations`;
`none` when it is not reached. -/
def loopStart? (env : Environment) (migrations : List Migration) (db : Database) :
    Option (Database × List AppliedMigration) :=
  let numbered :=
    if db.hasTable "schema_migrations" then some db
    else
      match ensureMigrationsTable env db with
      | none => none
      | some next =>
          if hasLegacyTables db then
            match migrations with
            | [] => none
            | m1 :: _ =>
                match validateAndBackfillLegacyV1 env next m1 with
                | (next, .done) => some next
                | _ => none
          else some next
  match numbered with
  | none => none
  | some start =>
      match start.applied with
      | none => none
      | some rows =>
          match detectDrift env rows {} migrations with
          | .error _ => none
          | .ok _ => some (start, rows)

/-- Drift does not depend on what the report has so far. -/
theorem detectDrift_ok {rows : List AppliedMigration} {migrations : List Migration}
    {report report' result : MigrationReport}
    (h : detectDrift env rows report migrations = .ok result) :
    ∃ result', detectDrift env rows report' migrations = .ok result' := by
  induction migrations generalizing report report' with
  | nil => exact ⟨report', rfl⟩
  | cons m migrations ih =>
      simp only [detectDrift] at h ⊢
      cases hrecorded : recorded? rows m with
      | none =>
          rw [hrecorded] at h
          exact ih h
      | some stored =>
          rw [hrecorded] at h
          dsimp only at h ⊢
          by_cases hsame : stored ≠ env.checksum m.version
          · rw [if_pos hsame] at h
            cases h
          · rw [if_neg hsame] at h ⊢
            split at h <;> split <;> exact ih h

/-- The loop leaves the same database whatever the report has so far. -/
theorem applyPending_fst (rows : List AppliedMigration) (db : Database)
    (report report' : MigrationReport) (migrations : List Migration) :
    (applyPending env rows db report migrations).1 =
      (applyPending env rows db report' migrations).1 := by
  induction migrations generalizing db report report' with
  | nil => rfl
  | cons m migrations ih =>
      simp only [applyPending]
      split
      · exact ih ..
      cases executescript env db m.up with
      | mk next through =>
          cases through with
          | false => rfl
          | true =>
              dsimp only
              cases recordMigration env next m with
              | none => rfl
              | some recorded => exact ih ..

/-- Without drift the numbered part ends with what the loop leaves. -/
theorem runNumbered_fst {migrations : List Migration} {db : Database}
    {rows : List AppliedMigration} {result : MigrationReport} (hrows : db.applied = some rows)
    (hresult : detectDrift env rows {} migrations = .ok result) (report : MigrationReport) :
    (runNumbered env migrations db report).1 = (applyPending env rows db {} migrations).1 := by
  obtain ⟨result', hresult'⟩ := @detectDrift_ok env rows migrations {}
    { report with startingVersion := maxVersion rows } result hresult
  simp only [runNumbered, hrows, hresult']
  exact applyPending_fst ..

/-- A run that comes to the loop ends with what the loop leaves. -/
theorem runMigrationsOf_fst {migrations : List Migration} {db start : Database}
    {rows : List AppliedMigration} (h : loopStart? env migrations db = some (start, rows)) :
    (runMigrationsOf env migrations db).1 = (applyPending env rows start {} migrations).1 := by
  unfold loopStart? at h
  dsimp only at h
  split at h
  · cases h
  rename_i first hnumbered
  split at h
  · cases h
  rename_i rows' hrows
  split at h
  · cases h
  rename_i result hresult
  cases h
  -- the loop is reached by `runNumbered`
  unfold runMigrationsOf
  by_cases hhere : db.hasTable "schema_migrations" = true
  · rw [if_pos hhere] at hnumbered ⊢
    cases hnumbered
    exact runNumbered_fst hrows hresult _
  rw [if_neg hhere] at hnumbered ⊢
  cases hensure : ensureMigrationsTable env db with
  | none =>
      rw [hensure] at hnumbered
      cases hnumbered
  | some next =>
      rw [hensure] at hnumbered
      dsimp only at hnumbered ⊢
      by_cases hlegacy : hasLegacyTables db = true
      · rw [if_pos hlegacy] at hnumbered ⊢
        cases migrations with
        | nil => cases hnumbered
        | cons m1 migrations =>
            dsimp only at hnumbered ⊢
            cases hvalidate : validateAndBackfillLegacyV1 env next m1 with
            | mk filled outcome =>
                rw [hvalidate] at hnumbered
                cases outcome with
                | done =>
                    cases hnumbered
                    exact runNumbered_fst hrows hresult _
                | unsupported reason => cases hnumbered
                | raised => cases hnumbered
      · rw [if_neg hlegacy] at hnumbered ⊢
        cases hnumbered
        exact runNumbered_fst hrows hresult _

/-- A failed migration leaves what its script executed. -/
theorem applyPending_of_failure {rows : List AppliedMigration} {db before : Database}
    {report : MigrationReport} {migrations : List Migration} {m : Migration}
    (h : failure? env rows db migrations = some (before, m)) :
    (applyPending env rows db report migrations).1 =
      (Connection.autocommit (exec env) before m.up).1 := by
  induction migrations generalizing db report with
  | nil => cases h
  | cons next migrations ih =>
      simp only [failure?, attempt_idle] at h
      simp only [applyPending]
      split at h
      · rename_i hrecorded
        rw [if_pos hrecorded]
        exact ih h
      rename_i hpending
      rw [if_neg hpending]
      cases hscript : executescript env db next.up with
      | mk executed through =>
          rw [hscript] at h
          cases through with
          | false =>
              cases h
              rw [← executescript_eq, hscript]
          | true =>
              dsimp only at h ⊢
              cases hrecord : recordMigration env executed next with
              | none =>
                  rw [hrecord] at h
                  cases h
                  rw [← executescript_eq, hscript]
              | some recorded =>
                  rw [hrecord] at h
                  exact ih h

/-! ### Traces -/

def LeavesNoTrace (env : Environment) (migrations : List Migration) (db : Database) : Prop :=
  ∀ start rows, loopStart? env migrations db = some (start, rows) → ∀ before m,
    failure? env rows start migrations = some (before, m) →
      (runMigrationsOf env migrations db).1 = before

/-- What runs of the script of a migration that fails, changes nothing. -/
def FailsHarmlessly (env : Environment) (migrations : List Migration) (db : Database) : Prop :=
  ∀ start rows, loopStart? env migrations db = some (start, rows) → ∀ before m,
    failure? env rows start migrations = some (before, m) → ∀ done after,
      Connection.Ran (exec env) before m.up done after → after = before

/-- A failed migration leaves no trace exactly if the statements before the one that raised have
changed nothing. -/
theorem leaves_no_trace_iff (env : Environment) (migrations : List Migration) (db : Database) :
    LeavesNoTrace env migrations db ↔ FailsHarmlessly env migrations db := by
  constructor
  · intro h start rows hstart before m hfailure done after hran
    have hend := h start rows hstart before m hfailure
    rw [runMigrationsOf_fst hstart, applyPending_of_failure hfailure, hran.autocommit_eq] at hend
    exact hend
  · intro h start rows hstart before m hfailure
    obtain ⟨done, hran⟩ := Connection.ran_autocommit (exec env) before m.up
    rw [runMigrationsOf_fst hstart, applyPending_of_failure hfailure]
    exact h start rows hstart before m hfailure done _ hran

namespace Sample

/-- A profile at version six whose sessions have one of the columns that the seventh adds. -/
def halfBudgets : Database where
  tables := [bookkeeping, ⟨"sessions", ["session_id", "cost_budget_estimate"]⟩]
  applied := some ((allMigrations.take 6).map fun m =>
    ⟨m.version, m.name, environment.checksum m.version⟩)

/-- The same with the columns that are added before that one. -/
def moreBudgets : Database :=
  { halfBudgets with
    tables := [bookkeeping, ⟨"sessions", ["session_id", "cost_budget_estimate",
      "runtime_budget_seconds", "artifact_bytes_budget", "cumulative_artifact_bytes"]⟩] }

theorem halfBudgets_facts :
    loopStart? environment allMigrations halfBudgets =
        some (halfBudgets, halfBudgets.applied.getD []) ∧
      (failure? environment (halfBudgets.applied.getD []) halfBudgets allMigrations).map (·.1) =
        some halfBudgets ∧
      (runMigrations environment halfBudgets).1 = moreBudgets := by
  decide +kernel

end Sample

/-- The seventh migration fails at its fourth statement, and the columns of the first three
stay. -/
theorem failed_budgets_leave_columns :
    ¬LeavesNoTrace Sample.environment allMigrations Sample.halfBudgets := by
  intro h
  obtain ⟨hstart, hfailure, hend⟩ := Sample.halfBudgets_facts
  obtain ⟨⟨before, m⟩, hfailure, rfl⟩ := Option.map_eq_some_iff.mp hfailure
  have htrace := h _ _ hstart _ m hfailure
  change (runMigrations Sample.environment Sample.halfBudgets).1 = _ at htrace
  rw [hend] at htrace
  revert htrace
  decide +kernel

end Kin.Storage.Migrations
