import Kin.Py.Time
import Kin.Py.Value
import Mathlib.Data.List.Sort

/-!
`kin/storage/migrations.py`: the numbered migrations of a profile database, what SQLite
makes of their statements, and `run_migrations` with its check of profiles that are
older than the numbering. Names are the same for SQLite if they differ in the case of
ASCII letters only; the queries on `sqlite_master` and the sets of names in the code
tell them apart.
-/

namespace Kin.Storage.Migrations

open Kin.Py

/-! ### Schemas -/

structure Table where
  name : String
  columns : List String
  deriving DecidableEq

structure Index where
  name : String
  table : String
  columns : List String
  deriving DecidableEq

/-- A row of `schema_migrations`. -/
structure AppliedMigration where
  version : Int
  name : String
  checksum : String
  deriving DecidableEq

/-- A database as its schema, what the query on `schema_migrations` returns, `none` when that
query raises, and the rows of the other tables, each with the name of its table. -/
structure Database where
  tables : List Table
  views : List String := []
  indexes : List Index := []
  triggers : List String := []
  applied : Option (List AppliedMigration) := none
  rows : List (String × List SqlValue) := []
  deriving DecidableEq

def sameName (a b : String) : Bool := decide (a.toList.map Char.toLower = b.toList.map Char.toLower)

inductive Statement
  /-- `CREATE TABLE IF NOT EXISTS`. -/
  | createTable (name : String) (columns : List String)
  /-- `CREATE INDEX IF NOT EXISTS`. -/
  | createIndex (name table : String) (columns : List String)
  /-- `CREATE TRIGGER IF NOT EXISTS ... BEFORE`. -/
  | createTrigger (name table : String)
  /-- `ALTER TABLE ... ADD COLUMN`, with the default that the rows get. -/
  | addColumn (table column : String) (value : SqlValue := .null)
  /-- `ALTER TABLE ... RENAME COLUMN ... TO`. -/
  | renameColumn (table column target : String)
  /-- Any other statement; `none` when it raises. -/
  | other (effect : Database → Option Database)

namespace Database

variable (db : Database)

def table? (name : String) : Option Table := db.tables.find? fun t => sameName t.name name

def hasView (name : String) : Bool := db.views.any (sameName name)

def hasIndex (name : String) : Bool := db.indexes.any fun i => sameName i.name name

def hasTrigger (name : String) : Bool := db.triggers.any (sameName name)

/-- `CREATE TABLE IF NOT EXISTS` of the name creates no table: there is one, or a view, or
an index is in the way. -/
def occupied (name : String) : Bool :=
  (db.table? name).isSome || db.hasView name || db.hasIndex name

/-- A table of that very name, as `sqlite_master` is asked for it. -/
def hasTable (name : String) : Bool := db.tables.any fun t => decide (t.name = name)

def setColumns (table : String) (f : List String → List String) : Database :=
  { db with
    tables := db.tables.map fun t =>
      if sameName t.name table then { t with columns := f t.columns } else t }

def addValue (table : String) (value : SqlValue) : Database :=
  { db with
    rows := db.rows.map fun row =>
      if sameName row.1 table then (row.1, row.2 ++ [value]) else row }

end Database

def Table.hasColumn (t : Table) (column : String) : Bool := t.columns.any (sameName column)

/-- SQLite and the clock. -/
structure Environment where
  /-- The table that `PRAGMA table_info('...')` is about when an apostrophe of the name ends
  the text early; `none` when the statement is no PRAGMA any more. -/
  quotedName : String → Option String
  /-- The views and triggers of a schema can be read again after a column was renamed. -/
  rereads : Database → Bool
  /-- `Migration.checksum`: SHA-256 of the text of the migration. -/
  checksum : Nat → String
  /-- The text of the error that a migration ends with. -/
  errorText : Nat → String

section

variable (env : Environment)

/-- One statement; `none` when it raises. -/
def exec (db : Database) : Statement → Option Database
  | .createTable name columns =>
      if (db.table? name).isSome || db.hasView name then some db
      else if db.hasIndex name then none
      else some { db with tables := db.tables ++ [⟨name, columns⟩] }
  | .createIndex name table columns =>
      match db.table? table with
      | none => none
      | some t =>
          if (db.table? name).isSome || db.hasView name then none
          else if db.hasIndex name then some db
          else if columns.all t.hasColumn then
            some { db with indexes := db.indexes ++ [⟨name, table, columns⟩] }
          else none
  | .createTrigger name table =>
      if (db.table? table).isNone && !db.hasView table then none
      else if db.hasTrigger name then some db
      else if db.hasView table then none
      else some { db with triggers := db.triggers ++ [name] }
  | .addColumn table column value =>
      match db.table? table with
      | none => none
      | some t =>
          if t.hasColumn column then none
          else
            some ((db.setColumns table fun columns => columns ++ [column]).addValue table value)
  | .renameColumn table column target =>
      match db.table? table with
      | none => none
      | some t =>
          if !t.hasColumn column || t.hasColumn target || !env.rereads db then none
          else
            some (db.setColumns table fun columns =>
              columns.map fun c => if sameName c column then target else c)
  | .other effect => effect db

/-- `executescript`: the statements one by one, each committed, up to the first that
raises; whether all of them went through. -/
def executescript : Database → List Statement → Database × Bool
  | db, [] => (db, true)
  | db, statement :: statements =>
      match exec env db statement with
      | none => (db, false)
      | some db => executescript db statements

/-! ### The migrations -/

structure Migration where
  version : Nat
  name : String
  up : List Statement

def migration0001 : List Statement :=
  [.createTable "identity" ["username", "public_key", "keychain_ref", "protocol_version"],
   .createTable "contacts" ["username", "display_name", "public_key", "x25519_public_key",
     "endpoint", "autonomy_level", "fingerprint_verified_at"],
   .createTable "tasks" ["task_id", "contact_username", "goal", "context_json", "status",
     "created_at", "updated_at", "result_json", "draft_content", "draft_message_type",
     "agent_name", "peer_agent_name", "peer_task_id", "origin_ref_id"],
   .createTable "messages" ["message_id", "task_id", "from_username", "content", "message_type",
     "created_at", "signature"],
   .createTable "settings" ["key", "value"],
   .createTable "processed_relay_messages" ["message_id", "processed_at"]]

def migration0002 : List Statement :=
  [.createTable "agents" ["agent_id", "name", "adapter_type", "local_card_json",
     "published_card_json", "enabled", "availability", "created_at", "updated_at"],
   .createTable "sessions" ["session_id", "type", "owner_username", "peer_username", "status",
     "objective", "sender_agent_id", "receiver_agent_id", "participant_snapshot_json",
     "turn_limit", "created_at", "updated_at", "terminal_result_json"],
   .createIndex "idx_sessions_status_updated" "sessions" ["status", "updated_at"],
   .createTable "session_events" ["event_id", "session_id", "event_order", "sequence",
     "actor_username", "actor_agent_id", "kind", "visibility", "payload_json", "signature",
     "created_at"],
   .createIndex "idx_session_events_session_order" "session_events" ["session_id", "event_order"],
   .createTable "artifacts" ["artifact_id", "session_id", "sha256", "mime_type",
     "bytes_encrypted", "metadata_json", "offered_by", "created_at"],
   .createIndex "idx_artifacts_sha256" "artifacts" ["sha256"],
   .createTable "approvals" ["approval_id", "session_id", "agent_id", "action_class",
     "request_json", "decision", "decided_at", "expires_at"],
   .createIndex "idx_approvals_expires_at" "approvals" ["expires_at"],
   .createTable "audit_events" ["audit_id", "correlation_id", "session_id", "category",
     "actor_username", "summary", "payload_json", "created_at"],
   .createIndex "idx_audit_events_session" "audit_events" ["session_id"],
   .createIndex "idx_audit_events_created" "audit_events" ["created_at"],
   .createTrigger "trg_session_events_no_update" "session_events",
   .createTrigger "trg_session_events_no_delete" "session_events",
   .createTrigger "trg_audit_events_no_update" "audit_events",
   .createTrigger "trg_audit_events_no_delete" "audit_events"]

def migration0003 : List Statement :=
  [.addColumn "agents" "card_version" (.integer 1),
   .createTable "peer_agent_cards" ["peer_username", "agent_id", "card_json", "content_hash",
     "status", "first_seen_at", "last_seen_at"],
   .createIndex "idx_peer_agent_cards_status" "peer_agent_cards" ["status"]]

def migration0004 : List Statement :=
  [.createTable "outbound_envelope_queue" ["queue_id", "session_id", "sequence",
     "recipient_username", "envelope_kind", "envelope_json_enc", "delivery_state",
     "attempt_count", "next_retry_at", "last_error", "created_at", "updated_at"],
   .createIndex "idx_outbound_queue_pending" "outbound_envelope_queue"
     ["delivery_state", "next_retry_at"],
   .addColumn "sessions" "expires_at"]

def migration0005 : List Statement :=
  [.renameColumn "sessions" "owner_username" "initiator_username",
   .renameColumn "sessions" "peer_username" "receiver_username",
   .createTable "peer_capabilities" ["peer_username", "capability_json", "fetched_at"]]

def migration0006 : List Statement := [.addColumn "approvals" "consumed_at"]

def migration0007 : List Statement :=
  [.addColumn "sessions" "runtime_budget_seconds",
   .addColumn "sessions" "artifact_bytes_budget",
   .addColumn "sessions" "cumulative_artifact_bytes" (.integer 0),
   .addColumn "sessions" "cost_budget_estimate",
   .addColumn "sessions" "cumulative_cost_estimate" (.real (.finite 0))]

def migration0008 : List Statement :=
  [.createTable "context_pantry_refs" ["ref_id", "encrypted_path", "size_bytes", "expires_at",
     "created_at"],
   .createTable "context_packs" ["pack_id", "name", "items_json_enc", "created_at",
     "updated_at"]]

def migration0009 : List Statement :=
  [.createTable "agent_reservations" ["reservation_id", "agent_id", "owner_username",
     "starts_at", "ends_at", "status", "created_at"],
   .createIndex "idx_agent_reservations_window" "agent_reservations"
     ["agent_id", "starts_at", "ends_at", "status"],
   .createTable "playbooks" ["playbook_id", "name", "source_session_id", "template_json_enc",
     "created_at", "updated_at"]]

def baseline : Migration := ⟨1, "v1_baseline", migration0001⟩

def allMigrations : List Migration :=
  [baseline,
   ⟨2, "v11_session_records", migration0002⟩,
   ⟨3, "v11_agent_registry_extensions", migration0003⟩,
   ⟨4, "v11_transport_and_queue", migration0004⟩,
   ⟨5, "v11_session_column_renames", migration0005⟩,
   ⟨6, "v11_approval_consumed_at", migration0006⟩,
   ⟨7, "v11_session_budgets", migration0007⟩,
   ⟨8, "v11_context_pantry_refs", migration0008⟩,
   ⟨9, "v11_collaboration_depth", migration0009⟩]

/-! ### Profiles without numbering -/

def legacyTables : List String := ["identity", "contacts", "tasks", "messages", "settings"]

def hasLegacyTables (db : Database) : Bool := legacyTables.any db.hasTable

def isLegacyUnmigratedProfile (db : Database) : Bool :=
  !db.hasTable "schema_migrations" && hasLegacyTables db

/-- `_ensure_migrations_table`; `none` when it raises. -/
def ensureMigrationsTable (db : Database) : Option Database :=
  (exec env db (.createTable "schema_migrations" ["version", "name", "applied_at", "checksum"])).map
    fun next => if db.occupied "schema_migrations" then next else { next with applied := some [] }

/-- The columns that `PRAGMA table_info` lists; `none` when it raises. -/
def tableInfo (db : Database) (t : Table) : Option (List String) :=
  if '\'' ∈ t.name.toList then
    (env.quotedName t.name).map fun name => ((db.table? name).map (·.columns)).getD []
  else some t.columns

/-- `_introspect_tables`; `none` when it raises. -/
def introspectTables (db : Database) : Option (List Table) :=
  (db.tables.filter fun t => !"sqlite_".toList.isPrefixOf t.name.toList).mapM fun t =>
    (tableInfo env db t).map (⟨t.name, ·⟩)

def allowedV1Tables : List String :=
  ["schema_migrations", "identity", "contacts", "tasks", "messages", "settings",
   "processed_relay_messages"]

/-- `req_cols`. -/
def requiredColumns : List Table :=
  [⟨"identity", ["username", "public_key"]⟩,
   ⟨"contacts", ["username", "display_name", "public_key"]⟩,
   ⟨"tasks", ["task_id", "contact_username", "goal", "context_json", "status", "created_at",
     "updated_at", "result_json", "draft_content", "draft_message_type"]⟩,
   ⟨"messages", ["message_id", "task_id", "from_username", "content", "message_type",
     "created_at", "signature"]⟩,
   ⟨"settings", ["key", "value"]⟩,
   ⟨"processed_relay_messages", ["message_id", "processed_at"]⟩]

/-- `', '.join(sorted(names))`. -/
def sortedNames (names : List String) : String :=
  ", ".intercalate (names.insertionSort (· ≤ ·))

def missingColumns (tables : List Table) (required : Table) : List String :=
  match tables.find? fun t => decide (t.name = required.name) with
  | none => []
  | some t => required.columns.filter fun c => !decide (c ∈ t.columns)

def unsupported? (tables : List Table) : Option String :=
  let extra := (tables.map (·.name)).filter fun name => !decide (name ∈ allowedV1Tables)
  if extra ≠ [] then
    some ("Unsupported prior schema: unrecognized tables present (" ++ sortedNames extra ++ ")")
  else
    (requiredColumns.find? fun required => !(missingColumns tables required).isEmpty).map
      fun required => "Unsupported prior schema: " ++ required.name ++
        " table missing required columns (" ++ sortedNames (missingColumns tables required) ++ ")"

def optionalTaskColumns : List String :=
  ["agent_name", "peer_agent_name", "peer_task_id", "origin_ref_id"]

/-- `INSERT INTO schema_migrations`; `none` when it raises. -/
def recordMigration (db : Database) (m : Migration) : Option Database :=
  match db.table? "schema_migrations", db.applied with
  | some _, some rows =>
      some { db with applied := some (rows ++ [⟨m.version, m.name, env.checksum m.version⟩]) }
  | _, _ => none

/-- What `_validate_and_backfill_legacy_v1` comes to. -/
inductive Backfill
  | done
  | unsupported (reason : String)
  | raised

def validateAndBackfillLegacyV1 (db : Database) (m1 : Migration) : Database × Backfill :=
  match introspectTables env db with
  | none => (db, .raised)
  | some tables =>
  match unsupported? tables with
  | some reason => (db, .unsupported reason)
  | none =>
  let missing :=
    match tables.find? fun t => decide (t.name = "tasks") with
    | none => []
    | some t => optionalTaskColumns.filter fun c => !decide (c ∈ t.columns)
  match executescript env db (missing.map fun column => .addColumn "tasks" column) with
  | (db, false) => (db, .raised)
  | (db, true) =>
  match executescript env db m1.up with
  | (db, false) => (db, .raised)
  | (db, true) =>
  match recordMigration env db m1 with
  | none => (db, .raised)
  | some db => (db, .done)

/-! ### The runner -/

structure MigrationReport where
  applied : List Nat := []
  skipped : List Nat := []
  startingVersion : Int := 0
  endingVersion : Int := 0
  errors : List String := []
  deriving DecidableEq

/-- How a call of `run_migrations` ends. -/
inductive Run
  | report (report : MigrationReport)
  | raised
  deriving DecidableEq

/-- `{m.version:04d}_{m.name}`. -/
def Migration.label (m : Migration) : String := zeroPad 4 m.version ++ "_" ++ m.name

def recorded? (rows : List AppliedMigration) (m : Migration) : Option String :=
  (rows.reverse.find? fun row => decide (row.version = (m.version : Int))).map (·.checksum)

/-- The first migration whose recorded checksum is another one, or the report with those
that are skipped. -/
def detectDrift (rows : List AppliedMigration) (report : MigrationReport) :
    List Migration → Except MigrationReport MigrationReport
  | [] => .ok report
  | m :: ms =>
      match recorded? rows m with
      | none => detectDrift rows report ms
      | some stored =>
          if stored ≠ env.checksum m.version then
            .error
              { report with
                errors := report.errors ++ ["Checksum drift detected for migration " ++ m.label ++
                  ": stored=" ++ (stored.take 12).toString ++ ", expected=" ++
                  ((env.checksum m.version).take 12).toString] }
          else if m.version ∈ report.applied then detectDrift rows report ms
          else detectDrift rows { report with skipped := report.skipped ++ [m.version] } ms

/-- The pending migrations, up to the first that fails. What a failed one has executed
stays: `executescript` commits the transaction that was begun for it. -/
def applyPending (rows : List AppliedMigration) :
    Database → MigrationReport → List Migration → Database × MigrationReport
  | db, report, [] => (db, report)
  | db, report, m :: ms =>
      if (recorded? rows m).isSome then applyPending rows db report ms
      else
        let failed :=
          { report with
            errors := report.errors ++
              ["Migration " ++ m.label ++ " failed: " ++ env.errorText m.version] }
        match executescript env db m.up with
        | (db, false) => (db, failed)
        | (db, true) =>
            match recordMigration env db m with
            | none => (db, failed)
            | some db =>
                applyPending rows db { report with applied := report.applied ++ [m.version] } ms

/-- The largest version, zero if there is none. -/
def maxVersion (rows : List AppliedMigration) : Int :=
  ((rows.map (·.version)).max?).getD 0

/-- `run_migrations` from the query on `schema_migrations` on. -/
def runNumbered (migrations : List Migration) (db : Database) (report : MigrationReport) :
    Database × Run :=
  match db.applied with
  | none => (db, .raised)
  | some rows =>
  let report := { report with startingVersion := maxVersion rows }
  match detectDrift env rows report migrations with
  | .error report => (db, .report report)
  | .ok report =>
  let (db, report) := applyPending env rows db report migrations
  (db, .report { report with endingVersion := maxVersion (db.applied.getD []) })

/-- `run_migrations` with another list for `ALL_MIGRATIONS`. -/
def runMigrationsOf (migrations : List Migration) (db : Database) : Database × Run :=
  if db.hasTable "schema_migrations" then runNumbered env migrations db {}
  else
    match ensureMigrationsTable env db with
    | none => (db, .raised)
    | some next =>
        if hasLegacyTables db then
          match migrations with
          | [] => (next, .raised)
          | m1 :: _ =>
              match validateAndBackfillLegacyV1 env next m1 with
              | (next, .raised) => (next, .raised)
              | (next, .unsupported reason) => (next, .report { errors := [reason] })
              | (next, .done) => runNumbered env migrations next { applied := [1] }
        else runNumbered env migrations next {}

def runMigrations (db : Database) : Database × Run := runMigrationsOf env allMigrations db

end

end Kin.Storage.Migrations
