import Kin.Storage.Migrations

/-!
What a script that goes through does to the tables and rows of a database without views. Each
statement acts on the tables of its name alone, and rows only ever get longer, so a script can be
followed table by table.
-/

namespace Kin.Storage.Migrations

variable {env : Environment} {db db' : Database}

@[simp] theorem sameName_refl (name : String) : sameName name name = true := by
  simp [sameName]

theorem Table.hasColumn_of_mem {t : Table} {column : String} (h : column ∈ t.columns) :
    t.hasColumn column = true :=
  List.any_eq_true.mpr ⟨column, h, sameName_refl column⟩

/-! ### One statement -/

/-- The statement is one of those that the migrations are made of. -/
def Statement.known : Statement → Bool
  | .other _ => false
  | _ => true

def Statement.touches (name : String) : Statement → Bool
  | .createTable table _ => sameName name table
  | .addColumn table _ _ => sameName name table
  | .renameColumn table _ _ => sameName name table
  | _ => false

def Statement.onTables (tables : List Table) : Statement → List Table
  | .createTable name columns =>
      if tables.any fun t => sameName t.name name then tables else tables ++ [⟨name, columns⟩]
  | .addColumn table column _ =>
      tables.map fun t =>
        if sameName t.name table then { t with columns := t.columns ++ [column] } else t
  | .renameColumn table column target =>
      tables.map fun t =>
        if sameName t.name table then
          { t with columns := t.columns.map fun c => if sameName c column then target else c }
        else t
  | _ => tables

def KeepsRows (rows rows' : List (String × List Kin.Py.SqlValue)) : Prop :=
  List.Forall₂ (fun row row' => row'.1 = row.1 ∧ row.2 <+: row'.2) rows rows'

theorem KeepsRows.refl (rows : List (String × List Kin.Py.SqlValue)) : KeepsRows rows rows := by
  induction rows with
  | nil => exact .nil
  | cons row rows ih => exact .cons ⟨rfl, List.prefix_refl _⟩ ih

theorem KeepsRows.trans {rows rows' rows'' : List (String × List Kin.Py.SqlValue)}
    (h : KeepsRows rows rows') (h' : KeepsRows rows' rows'') : KeepsRows rows rows'' := by
  induction h generalizing rows'' with
  | nil => exact h'
  | cons hrow _ ih =>
      cases h' with
      | cons hrow' hrows' =>
          exact .cons ⟨hrow'.1.trans hrow.1, hrow.2.trans hrow'.2⟩ (ih hrows')

theorem keepsRows_addValue (db : Database) (table : String) (value : Kin.Py.SqlValue) :
    KeepsRows db.rows (db.addValue table value).rows := by
  show KeepsRows db.rows (db.rows.map _)
  induction db.rows with
  | nil => exact .nil
  | cons row rows ih =>
      refine .cons ?_ ih
      dsimp only
      split
      · exact ⟨rfl, List.prefix_append ..⟩
      · exact ⟨rfl, List.prefix_refl _⟩

/-- What goes through without views: the tables and rows as said, and `schema_migrations` keeps
its rows. -/
structure Goes (db : Database) (tables : List Table) (db' : Database) : Prop where
  tables : db'.tables = tables
  views : db'.views = []
  applied : db'.applied = db.applied
  rows : KeepsRows db.rows db'.rows

theorem isSome_table? (db : Database) (name : String) :
    (db.table? name).isSome = db.tables.any fun t => sameName t.name name := by
  rw [Database.table?, List.isSome_find?]

theorem goes_of_exec {statement : Statement} (hviews : db.views = [])
    (hknown : statement.known = true) (h : exec env db statement = some db') :
    Goes db (statement.onTables db.tables) db' := by
  cases statement with
  | createTable name columns =>
      have hview : db.hasView name = false := by simp [Database.hasView, hviews]
      rw [exec, hview, Bool.or_false, isSome_table?] at h
      simp only [Statement.onTables]
      split at h
      · rename_i hthere
        cases h
        rw [if_pos hthere]
        exact ⟨rfl, hviews, rfl, .refl _⟩
      rename_i hfree
      split at h
      · cases h
      · cases h
        rw [if_neg hfree]
        exact ⟨rfl, hviews, rfl, .refl _⟩
  | createIndex name table columns =>
      rw [exec] at h
      split at h
      · cases h
      split at h
      · cases h
      split at h
      · cases h
        exact ⟨rfl, hviews, rfl, .refl _⟩
      split at h
      · cases h
        exact ⟨rfl, hviews, rfl, .refl _⟩
      · cases h
  | createTrigger name table =>
      rw [exec] at h
      split at h
      · cases h
      split at h
      · cases h
        exact ⟨rfl, hviews, rfl, .refl _⟩
      split at h
      · cases h
      · cases h
        exact ⟨rfl, hviews, rfl, .refl _⟩
  | addColumn table column value =>
      rw [exec] at h
      split at h
      · cases h
      split at h
      · cases h
      · cases h
        exact ⟨rfl, hviews, rfl, keepsRows_addValue ..⟩
  | renameColumn table column target =>
      rw [exec] at h
      split at h
      · cases h
      split at h
      · cases h
      · cases h
        exact ⟨rfl, hviews, rfl, .refl _⟩
  | other effect => cases hknown

/-! ### Scripts -/

def scriptTables (tables : List Table) (script : List Statement) : List Table :=
  script.foldl Statement.onTables tables

@[simp] theorem scriptTables_nil (tables : List Table) : scriptTables tables [] = tables := rfl

@[simp] theorem scriptTables_cons (tables : List Table) (statement : Statement)
    (script : List Statement) :
    scriptTables tables (statement :: script) = scriptTables (statement.onTables tables) script :=
  rfl

theorem scriptTables_append (tables : List Table) (script script' : List Statement) :
    scriptTables tables (script ++ script') = scriptTables (scriptTables tables script) script' := by
  simp [scriptTables]

theorem goes_of_executescript {script : List Statement} (hviews : db.views = [])
    (hknown : ∀ s ∈ script, s.known = true) (h : executescript env db script = (db', true)) :
    Goes db (scriptTables db.tables script) db' := by
  induction script generalizing db with
  | nil =>
      cases h
      exact ⟨rfl, hviews, rfl, .refl _⟩
  | cons statement script ih =>
      rw [executescript] at h
      split at h
      · cases h
      rename_i next hnext
      have hfirst := goes_of_exec hviews (hknown _ (by simp)) hnext
      have hrest := ih hfirst.views (fun s hs => hknown s (by simp [hs])) h
      refine ⟨?_, hrest.views, hrest.applied.trans hfirst.applied, hfirst.rows.trans hrest.rows⟩
      rw [hrest.tables, hfirst.tables, scriptTables_cons]

/-! ### Tables that are not touched -/

theorem onTables_append {statement : Statement} {front : List Table} (tables : List Table)
    (h : ∀ t ∈ front, statement.touches t.name = false) :
    statement.onTables (front ++ tables) = front ++ statement.onTables tables := by
  have hmap : ∀ (table : String) (f : Table → Table), (∀ t ∈ front, sameName t.name table = false) →
      (front.map fun t => if sameName t.name table then f t else t) = front := by
    intro table f hnone
    conv_rhs => rw [← List.map_id front]
    apply List.map_congr_left
    intro t ht
    simp [hnone t ht]
  cases statement with
  | createTable name columns =>
      have hnone : (front.any fun t => sameName t.name name) = false := by
        simpa [List.any_eq_false, Statement.touches] using h
      simp only [Statement.onTables, List.any_append, hnone, Bool.false_or]
      split
      · rfl
      · rw [List.append_assoc]
  | createIndex name table columns => rfl
  | createTrigger name table => rfl
  | addColumn table column value =>
      simp only [Statement.onTables, List.map_append]
      rw [hmap table _ h]
  | renameColumn table column target =>
      simp only [Statement.onTables, List.map_append]
      rw [hmap table _ h]
  | other effect => rfl

theorem scriptTables_append_front {script : List Statement} {front : List Table}
    (tables : List Table) (h : ∀ s ∈ script, ∀ t ∈ front, s.touches t.name = false) :
    scriptTables (front ++ tables) script = front ++ scriptTables tables script := by
  induction script generalizing tables with
  | nil => rfl
  | cons statement script ih =>
      rw [scriptTables_cons, scriptTables_cons, onTables_append tables (h _ (by simp))]
      exact ih _ fun s hs => h s (by simp [hs])

/-! ### Tables that are created -/

/-- Create statements for tables with different names add those that are not there. -/
theorem mem_created {created : List Table}
    (hdistinct : created.Pairwise fun a b => sameName a.name b.name = false) (tables : List Table)
    (t : Table) :
    t ∈ scriptTables tables (created.map fun t => .createTable t.name t.columns) ↔
      t ∈ tables ∨ t ∈ created ∧ (tables.any fun old => sameName old.name t.name) = false := by
  induction created generalizing tables with
  | nil => simp
  | cons first created ih =>
      rw [List.pairwise_cons] at hdistinct
      rw [List.map_cons, scriptTables_cons, ih hdistinct.2]
      simp only [Statement.onTables]
      by_cases hthere : (tables.any fun old => sameName old.name first.name) = true
      · rw [if_pos hthere]
        constructor
        · rintro (h | ⟨h, hnone⟩)
          · exact .inl h
          · exact .inr ⟨List.mem_cons_of_mem _ h, hnone⟩
        · rintro (h | ⟨h, hnone⟩)
          · exact .inl h
          · rcases List.mem_cons.mp h with rfl | h
            · rw [hthere] at hnone
              cases hnone
            · exact .inr ⟨h, hnone⟩
      · rw [if_neg hthere]
        rw [Bool.not_eq_true] at hthere
        constructor
        · rintro (h | ⟨h, hnone⟩)
          · rcases List.mem_append.mp h with h | h
            · exact .inl h
            · cases List.mem_singleton.mp h
              exact .inr ⟨List.mem_cons_self, hthere⟩
          · rw [List.any_append, Bool.or_eq_false_iff] at hnone
            exact .inr ⟨List.mem_cons_of_mem _ h, hnone.1⟩
        · rintro (h | ⟨h, hnone⟩)
          · exact .inl (List.mem_append_left _ h)
          · rcases List.mem_cons.mp h with rfl | h
            · exact .inl (List.mem_append_right _ (List.mem_singleton_self _))
            · refine .inr ⟨h, ?_⟩
              rw [List.any_append, hnone]
              simpa using hdistinct.1 t h

theorem scriptTables_addColumns (tables : List Table) (table : String) (columns : List String) :
    scriptTables tables (columns.map fun column => .addColumn table column) =
      tables.map fun t =>
        if sameName t.name table then { t with columns := t.columns ++ columns } else t := by
  induction columns generalizing tables with
  | nil =>
      conv_lhs => rw [List.map_nil, scriptTables_nil, ← List.map_id tables]
      apply List.map_congr_left
      intro t _
      simp
  | cons column columns ih =>
      rw [List.map_cons, scriptTables_cons, ih]
      simp only [Statement.onTables, List.map_map]
      apply List.map_congr_left
      intro t _
      by_cases hname : sameName t.name table = true
      · simp [hname]
      · simp [hname]

end Kin.Storage.Migrations
