import CrmPortal.Library.Completion

/-!
# The schema at a start

`bootstrap_database` creates the tables that are missing, each with its indexes behind it,
and adds the columns that older tables lack. Oracle commits every DDL statement by
itself, so a start that fails leaves its first statements behind, and replicas that start
together see the statements of each other. Where the database undoes a failed start, that
start is one that did nothing. An index comes with its table only: one that a failed start
has left out is never made up for.
-/

namespace SchemaBootstrap

open Completion Schedule

inductive Dialect where
  | oracle
  | other
  deriving DecidableEq

/-- A type of the models, or one that a statement writes out. -/
inductive SqlType where
  | integer
  | float
  | string (length : Nat)
  | text
  | dateTime
  | ddl (type : String)
  deriving DecidableEq

structure ColumnDef where
  type : SqlType
  nullable : Bool := true
  unique : Bool := false
  references : Option String := none
  serverNow : Bool := false
  deriving DecidableEq

inductive Key where
  | table (table : String)
  | column (table name : String)
  | constraint (table name : String)
  | index (table name : String)
  deriving DecidableEq

def Key.tableName : Key → String
  | .table t => t
  | .column t _ => t
  | .constraint t _ => t
  | .index t _ => t

def Key.isIndex : Key → Bool
  | .index _ _ => true
  | _ => false

inductive Item where
  | table
  | column (column : ColumnDef)
  | unique (columns : List String)
  | index (columns : List String)
  | uniqueIndex (columns : List String)
  deriving DecidableEq

abbrev Schema := Store Key Item

abbrev Ddl := Command Key Item

structure TableDef where
  name : String
  columns : List (String × ColumnDef)
  unique : List (String × List String) := []
  indexes : List (String × Item) := []

namespace TableDef

/-- What CREATE TABLE makes: the table, its columns and named constraints. -/
def entries (t : TableDef) : List (Key × Item) :=
  (.table t.name, .table) ::
    (t.columns.map fun c => (.column t.name c.1, .column c.2)) ++
      t.unique.map fun c => (.constraint t.name c.1, .unique c.2)

def indexEntries (t : TableDef) : List (Key × Item) :=
  t.indexes.map fun i => (.index t.name i.1, i.2)

def create (t : TableDef) : Ddl := ⟨[], t.entries⟩

/-- CREATE INDEX, on a table that is there. -/
def createIndex (t : TableDef) (entry : Key × Item) : Ddl := ⟨[.table t.name], [entry]⟩

/-- `__table__.create`: the table, and each of its indexes by a statement of its own. -/
def createAll (t : TableDef) : List Ddl := t.create :: t.indexEntries.map t.createIndex

end TableDef

def idColumn : String × ColumnDef := ("id", { type := .integer, nullable := false })

def stamp (name : String) : String × ColumnDef := (name, { type := .dateTime, serverNow := true })

def plain (name : String) (type : SqlType) : String × ColumnDef := (name, { type := type })

def required (name : String) (type : SqlType) : String × ColumnDef :=
  (name, { type := type, nullable := false })

def key (name : String) (type : SqlType) : String × ColumnDef :=
  (name, { type := type, nullable := false, unique := true })

def foreign (name references : String) : String × ColumnDef :=
  (name, { type := .integer, references := some references })

def shops : TableDef where
  name := "shops"
  columns := [idColumn, required "name" (.string 200), plain "address" .text,
    plain "coordinates" (.string 100), plain "contact_email" (.string 200),
    plain "contact_phone" (.string 50), plain "is_active" .integer, key "slug" (.string 80),
    required "storefront_url" (.string 500), required "crm_base_url" (.string 500),
    required "region" (.string 80), plain "currency" (.string 10), plain "status" (.string 50),
    plain "notes" .text, stamp "created_at", stamp "updated_at"]

def products : TableDef where
  name := "products"
  columns := [idColumn, foreign "shop_id" "shops.id", required "name" (.string 200),
    key "sku" (.string 50), plain "description" .text, required "price" .float,
    plain "stock" .integer, plain "category" (.string 100), plain "image_url" (.string 500),
    plain "is_active" .integer, stamp "created_at"]

def orders : TableDef where
  name := "orders"
  columns := [idColumn, foreign "customer_id" "customers.id", required "total" .float,
    plain "status" (.string 50), plain "notes" .text, plain "shipping_address" .text,
    plain "source_system" (.string 100), plain "source_order_id" (.string 120),
    plain "source_customer_email" (.string 200), plain "sync_status" (.string 50),
    plain "backlog_status" (.string 50), plain "sync_error" .text, plain "source_payload" .text,
    plain "correlation_id" (.string 128), plain "last_synced_at" .dateTime, stamp "created_at"]
  unique := [("uq_orders_source_ref", ["source_system", "source_order_id"])]

def orderSyncAudit : TableDef where
  name := "order_sync_audit"
  columns := [idColumn, required "source_system" (.string 100),
    plain "source_order_id" (.string 120), required "sync_action" (.string 50),
    required "sync_status" (.string 50), plain "message" .text,
    plain "correlation_id" (.string 128), plain "trace_id" (.string 64), stamp "created_at"]

/-- A column that is both unique and an index has one unique index, and no constraint. -/
def userSessions : TableDef where
  name := "user_sessions"
  columns := [idColumn, required "session_id" (.string 64), required "user_id" .integer,
    required "username" (.string 100), required "role" (.string 50),
    plain "auth_method" (.string 30), stamp "created_at"]
  indexes := [("ix_user_sessions_session_id", .uniqueIndex ["session_id"])]

/-- `Base.metadata`: these five tables, and whatever others. -/
structure Metadata where
  tables : List TableDef
  names : (tables.map TableDef.name).Nodup
  indexNames : ∀ t ∈ tables, (t.indexes.map Prod.fst).Nodup
  shops_mem : shops ∈ tables
  products_mem : products ∈ tables
  orders_mem : orders ∈ tables
  orderSyncAudit_mem : orderSyncAudit ∈ tables
  userSessions_mem : userSessions ∈ tables

def varchar (dialect : Dialect) (length : Nat) : String :=
  match dialect with
  | .oracle => "VARCHAR2(" ++ toString length ++ " CHAR)"
  | .other => "VARCHAR(" ++ toString length ++ ")"

def longText : Dialect → String
  | .oracle => "CLOB"
  | .other => "TEXT"

/-- ALTER TABLE ADD: a column that may be NULL, without a default. -/
def added (table name type : String) : Key × Item :=
  (.column table name, .column { type := .ddl type })

/-- `type_map` of `_ensure_order_columns`. -/
def orderColumns (dialect : Dialect) : List (Key × Item) :=
  [added "orders" "source_system" (varchar dialect 100),
    added "orders" "source_order_id" (varchar dialect 120),
    added "orders" "source_customer_email" (varchar dialect 200),
    added "orders" "sync_status" (varchar dialect 50),
    added "orders" "backlog_status" (varchar dialect 50),
    added "orders" "sync_error" (longText dialect),
    added "orders" "source_payload" (longText dialect),
    added "orders" "correlation_id" (varchar dialect 128),
    added "orders" "last_synced_at" "TIMESTAMP"]

def orderConstraint : List (Key × Item) :=
  [(.constraint "orders" "uq_orders_source_ref", .unique ["source_system", "source_order_id"])]

def imageColumn (dialect : Dialect) : List (Key × Item) :=
  [added "products" "image_url" (varchar dialect 500)]

def shopColumns (dialect : Dialect) : List (Key × Item) :=
  [added "shops" "address" (longText dialect),
    added "shops" "coordinates" (varchar dialect 100),
    added "shops" "contact_email" (varchar dialect 200),
    added "shops" "contact_phone" (varchar dialect 50),
    added "shops" "is_active" (match dialect with | .oracle => "NUMBER(1)" | .other => "INTEGER"),
    added "shops" "slug" (varchar dialect 80),
    added "shops" "storefront_url" (varchar dialect 500),
    added "shops" "crm_base_url" (varchar dialect 500),
    added "shops" "region" (varchar dialect 80),
    added "shops" "currency" (varchar dialect 10),
    added "shops" "status" (varchar dialect 50),
    added "shops" "notes" (longText dialect),
    added "shops" "updated_at" "TIMESTAMP"]

def shopIdColumn (dialect : Dialect) : List (Key × Item) :=
  [added "products" "shop_id" (match dialect with | .oracle => "NUMBER(10)" | .other => "INTEGER")]

/-- One statement for each entry that the table lacks, if the table is there. -/
def addMissing (table : String) (entries : List (Key × Item)) (s : Schema) : List Ddl :=
  if (s (.table table)).isSome then
    (entries.filter fun entry => (s entry.1).isNone).map fun entry => ⟨[.table table], [entry]⟩
  else []

/-- `Base.metadata.create_all`. -/
def createAll (metadata : Metadata) (s : Schema) : List Ddl :=
  (metadata.tables.filter fun t => (s (.table t.name)).isNone).flatMap TableDef.createAll

/-- `_ensure_order_columns` inspects three times: the columns, the constraints after those
are added, and the names of the tables. -/
def ensureOrderColumns (dialect : Dialect) : Schema → List Ddl :=
  addMissing "orders" (orderColumns dialect)

def ensureOrderConstraint : Schema → List Ddl := addMissing "orders" orderConstraint

def ensureOrderSyncAudit (s : Schema) : List Ddl :=
  if (s (.table "orders")).isSome ∧ (s (.table "order_sync_audit")).isNone then
    orderSyncAudit.createAll
  else []

def ensureProductColumns (dialect : Dialect) : Schema → List Ddl :=
  addMissing "products" (imageColumn dialect)

/-- `_ensure_catalog_schema` inspects the shops and then the products. -/
def ensureShops (dialect : Dialect) (s : Schema) : List Ddl :=
  if (s (.table "shops")).isNone then shops.createAll
  else addMissing "shops" (shopColumns dialect) s

def ensureProductShop (dialect : Dialect) : Schema → List Ddl :=
  addMissing "products" (shopIdColumn dialect)

/-- The source system and the source id of an order. -/
abbrev SourcePair := Option String × Option String

/-- A unique constraint over two columns: Oracle leaves out the rows without either value,
other databases the rows without one of them. -/
def compared : Dialect → SourcePair → Bool
  | .oracle, (system, id) => system.isSome || id.isSome
  | .other, (system, id) => system.isSome && id.isSome

def Distinct (dialect : Dialect) (rows : List SourcePair) : Prop :=
  (rows.filter (compared dialect)).Nodup

instance (dialect : Dialect) (rows : List SourcePair) : Decidable (Distinct dialect rows) :=
  inferInstanceAs (Decidable (List.Nodup _))

/-- ADD CONSTRAINT is refused if the orders do not keep it. -/
def accepts (dialect : Dialect) (rows : List SourcePair) (statement : Ddl) : Bool :=
  decide (Distinct dialect rows ∨ statement.adds ≠ orderConstraint)

/-- Everything that is added to tables that were there before. -/
def ensured (dialect : Dialect) : List (Key × Item) :=
  orderColumns dialect ++ orderConstraint ++ imageColumn dialect ++ shopColumns dialect ++
    shopIdColumn dialect

def modelled (metadata : Metadata) : List (Key × Item) :=
  metadata.tables.flatMap fun t => t.entries ++ t.indexEntries

/-- What was there stays as it was. A table that was missing is the one of the models, and a
table that was there gets the entries that it lacked. -/
def completed (metadata : Metadata) (dialect : Dialect) (first : Schema) : Schema := fun k =>
  (first k).or (if (first (.table k.tableName)).isNone then find k (modelled metadata)
    else find k (ensured dialect))

/-- Columns and constraints belong to tables. -/
def Sane (s : Schema) : Prop := ∀ k, (s k).isSome → (s (.table k.tableName)).isSome

section Modelled
variable {metadata : Metadata} {t : TableDef} {k : Key} {v : Item}

theorem mem_entries_iff : (k, v) ∈ t.entries ↔
    k = .table t.name ∧ v = .table ∨
    (∃ name column, (name, column) ∈ t.columns ∧ k = .column t.name name ∧ v = .column column) ∨
    ∃ name columns, (name, columns) ∈ t.unique ∧ k = .constraint t.name name ∧
      v = .unique columns := by
  simp [TableDef.entries, eq_comm, and_comm]

theorem entries_key (h : (k, v) ∈ t.entries) : k.tableName = t.name ∧ k.isIndex = false := by
  rcases mem_entries_iff.mp h with ⟨rfl, -⟩ | ⟨name, column, -, rfl, -⟩ | ⟨name, columns, -, rfl, -⟩
  · exact ⟨rfl, rfl⟩
  · exact ⟨rfl, rfl⟩
  · exact ⟨rfl, rfl⟩

theorem indexEntries_key (h : (k, v) ∈ t.indexEntries) :
    k.tableName = t.name ∧ k.isIndex = true := by
  obtain ⟨i, -, heq⟩ := List.mem_map.mp h
  obtain ⟨rfl, -⟩ := Prod.mk.inj heq
  exact ⟨rfl, rfl⟩

theorem tableName_of_mem (h : (k, v) ∈ t.entries ++ t.indexEntries) : k.tableName = t.name :=
  (List.mem_append.mp h).elim (fun h => (entries_key h).1) fun h => (indexEntries_key h).1

theorem table_mem_entries (t : TableDef) : (Key.table t.name, Item.table) ∈ t.entries :=
  mem_entries_iff.mpr (Or.inl ⟨rfl, rfl⟩)

theorem Metadata.eq_of_name {t' : TableDef} (ht : t ∈ metadata.tables)
    (ht' : t' ∈ metadata.tables) (h : t.name = t'.name) : t = t' :=
  List.inj_on_of_nodup_map metadata.names ht ht' h

/-- A key is looked up in its own table. -/
theorem find_flatMap_entries {tables : List TableDef} (names : (tables.map TableDef.name).Nodup)
    (ht : t ∈ tables) (hk : k.tableName = t.name) :
    find k (tables.flatMap fun t => t.entries ++ t.indexEntries) =
      find k (t.entries ++ t.indexEntries) := by
  induction tables with
  | nil => cases ht
  | cons head rest ih =>
    obtain ⟨hhead, hrest⟩ := List.nodup_cons.mp names
    rw [List.flatMap_cons, find_append]
    rcases List.mem_cons.mp ht with rfl | ht
    · have hnone : find k (rest.flatMap fun t => t.entries ++ t.indexEntries) = none := by
        refine find_eq_none fun entry hentry heq => ?_
        obtain ⟨other, hother, hmem⟩ := List.mem_flatMap.mp hentry
        have hname : entry.1.tableName = other.name := tableName_of_mem hmem
        rw [heq, hk] at hname
        exact hhead (hname ▸ List.mem_map_of_mem hother)
      rw [hnone, Option.or_none]
    · have hnone : find k (head.entries ++ head.indexEntries) = none := by
        refine find_eq_none fun entry hentry heq => ?_
        have hname : entry.1.tableName = head.name := tableName_of_mem hentry
        rw [heq, hk] at hname
        exact hhead (hname ▸ List.mem_map_of_mem ht)
      rw [hnone, Option.none_or]
      exact ih hrest ht

theorem find_modelled (ht : t ∈ metadata.tables) (hk : k.tableName = t.name) :
    find k (modelled metadata) = find k (t.entries ++ t.indexEntries) :=
  find_flatMap_entries metadata.names ht hk

theorem indexEntries_distinct (ht : t ∈ metadata.tables) :
    (t.indexEntries.map Prod.fst).Nodup := by
  have hkeys : t.indexEntries.map Prod.fst =
      (t.indexes.map Prod.fst).map fun name => Key.index t.name name := by
    simp [TableDef.indexEntries, Function.comp_def]
  rw [hkeys]
  exact (metadata.indexNames t ht).map fun _ _ h => (Key.index.inj h).2

/-- An index is looked up among the indexes. -/
theorem find_index (ht : t ∈ metadata.tables) (h : (k, v) ∈ t.indexEntries) :
    find k (t.entries ++ t.indexEntries) = some v := by
  have hnone : find k t.entries = none := by
    refine find_eq_none fun entry hentry heq => ?_
    have hindex := (indexEntries_key h).2
    rw [← heq, (entries_key hentry).2] at hindex
    cases hindex
  rw [find_append, hnone, Option.none_or]
  exact find_of_nodup (indexEntries_distinct ht) h

end Modelled

/-- Entries that a start adds to one table of the models, which has them itself. -/
structure Group (metadata : Metadata) (dialect : Dialect) (t : TableDef)
    (entries : List (Key × Item)) : Prop where
  table : t ∈ metadata.tables
  named : ∀ entry ∈ entries, entry.1.tableName = t.name
  own : ∀ entry ∈ entries, ∃ v, (entry.1, v) ∈ t.entries
  listed : entries ⊆ ensured dialect
  distinct : (entries.map Prod.fst).Nodup

theorem ensured_distinct (dialect : Dialect) : ((ensured dialect).map Prod.fst).Nodup := by
  cases dialect <;> decide +kernel

/-- Every entry has a key of its table. -/
def ownKeys (t : TableDef) (entries : List (Key × Item)) : Bool :=
  entries.all fun entry => decide (entry.1.tableName = t.name) &&
    decide (entry.1 ∈ t.entries.map Prod.fst)

theorem Group.ofParts {metadata : Metadata} {dialect : Dialect} {t : TableDef}
    {entries before after : List (Key × Item)} (table : t ∈ metadata.tables)
    (own : ownKeys t entries = true) (parts : ensured dialect = before ++ (entries ++ after)) :
    Group metadata dialect t entries where
  table := table
  named entry h := by
    have hboth := List.all_eq_true.mp own entry h
    rw [Bool.and_eq_true] at hboth
    exact of_decide_eq_true hboth.1
  own entry h := by
    have hboth := List.all_eq_true.mp own entry h
    rw [Bool.and_eq_true] at hboth
    obtain ⟨⟨k, v⟩, hmem, hkey⟩ := List.mem_map.mp (of_decide_eq_true hboth.2)
    exact ⟨v, hkey ▸ hmem⟩
  listed entry h := by
    rw [parts]
    exact List.mem_append_right _ (List.mem_append_left _ h)
  distinct := by
    have hall := ensured_distinct dialect
    rw [parts, List.map_append, List.map_append] at hall
    exact (hall.of_append_right).of_append_left

section Groups
variable (metadata : Metadata) (dialect : Dialect)

theorem group_orderColumns : Group metadata dialect orders (orderColumns dialect) :=
  Group.ofParts metadata.orders_mem (by cases dialect <;> decide +kernel)
    (show ensured dialect = [] ++ (_ ++ (orderConstraint ++ imageColumn dialect ++
      shopColumns dialect ++ shopIdColumn dialect)) by simp [ensured])

theorem group_orderConstraint : Group metadata dialect orders orderConstraint :=
  Group.ofParts metadata.orders_mem (by decide +kernel)
    (show ensured dialect = orderColumns dialect ++ (_ ++ (imageColumn dialect ++
      shopColumns dialect ++ shopIdColumn dialect)) by simp [ensured])

theorem group_imageColumn : Group metadata dialect products (imageColumn dialect) :=
  Group.ofParts metadata.products_mem (by cases dialect <;> decide +kernel)
    (show ensured dialect = (orderColumns dialect ++ orderConstraint) ++ (_ ++
      (shopColumns dialect ++ shopIdColumn dialect)) by simp [ensured])

theorem group_shopColumns : Group metadata dialect shops (shopColumns dialect) :=
  Group.ofParts metadata.shops_mem (by cases dialect <;> decide +kernel)
    (show ensured dialect = (orderColumns dialect ++ orderConstraint ++ imageColumn dialect) ++
      (_ ++ shopIdColumn dialect) by simp [ensured])

theorem group_shopIdColumn : Group metadata dialect products (shopIdColumn dialect) :=
  Group.ofParts metadata.products_mem (by cases dialect <;> decide +kernel)
    (show ensured dialect = (orderColumns dialect ++ orderConstraint ++ imageColumn dialect ++
      shopColumns dialect) ++ (_ ++ []) by simp [ensured])

end Groups

/-- The schema has grown from the first one towards the completed one, and a new table has
everything that the models give it, its indexes apart. -/
structure Sound (metadata : Metadata) (dialect : Dialect) (first s : Schema) : Prop where
  sane : Sane s
  grown : Below first s
  below : Below s (completed metadata dialect first)
  whole : ∀ t ∈ metadata.tables, first (.table t.name) = none → (s (.table t.name)).isSome →
    ∀ k v, (k, v) ∈ t.entries → (s k).isSome

/-- A statement creates a table that was missing at first or one of its indexes, or adds to
a table that was there. -/
inductive Good (metadata : Metadata) (dialect : Dialect) (first : Schema) : Ddl → Prop where
  | create {t : TableDef} (ht : t ∈ metadata.tables) (hnew : first (.table t.name) = none) :
      Good metadata dialect first t.create
  | index {t : TableDef} (ht : t ∈ metadata.tables) (hnew : first (.table t.name) = none)
      {entry : Key × Item} (h : entry ∈ t.indexEntries) :
      Good metadata dialect first (t.createIndex entry)
  | alter {table : String} {k : Key} {v : Item} (h : (k, v) ∈ ensured dialect)
      (hold : (first (.table k.tableName)).isSome) :
      Good metadata dialect first ⟨[.table table], [(k, v)]⟩

section Growth
variable {metadata : Metadata} {dialect : Dialect} {first s : Schema}

/-- The models decide about the keys of a new table. -/
theorem completed_new (sane : Sane first) {t : TableDef} (ht : t ∈ metadata.tables)
    (hnew : first (.table t.name) = none) {k : Key} (hk : k.tableName = t.name) :
    completed metadata dialect first k = find k (t.entries ++ t.indexEntries) := by
  have hfirst : first k = none := by
    cases h : first k with
    | none => rfl
    | some v =>
      have htable := sane k (by rw [h]; rfl)
      rw [hk, hnew] at htable
      cases htable
  rw [completed, hfirst, hk, hnew, Option.none_or]
  exact find_modelled ht hk

/-- What a statement adds is there in the completed schema. -/
theorem Good.target (sane : Sane first) {statement : Ddl}
    (good : Good metadata dialect first statement) (grown : Below first s)
    (free : Free statement.adds s) {k : Key} {v : Item} (h : find k statement.adds = some v) :
    completed metadata dialect first k = some v := by
  have hmem := find_some h
  cases good with
  | @create t ht hnew =>
    have hentries : find k t.entries = some v := h
    rw [completed_new sane ht hnew (entries_key hmem).1, find_append, hentries]
    rfl
  | @index t ht hnew entry hentry =>
    obtain rfl := List.mem_singleton.mp hmem
    rw [completed_new sane ht hnew (indexEntries_key hentry).1]
    exact find_index ht hentry
  | @alter table k' v' hlisted hold =>
    obtain ⟨rfl, rfl⟩ := Prod.mk.inj (List.mem_singleton.mp hmem)
    have hfirst : first k = none := by
      cases hfirst : first k with
      | none => rfl
      | some item =>
        have hfree : s k = none := free (k, v) List.mem_cons_self
        rw [grown k item hfirst] at hfree
        cases hfree
    have htable : (first (.table k.tableName)).isNone = false := by
      rw [← Option.not_isSome, hold]
      rfl
    rw [completed, hfirst, htable, Option.none_or]
    exact find_of_nodup (ensured_distinct dialect) hlisted

/-- What a statement adds belongs to a table that is there afterwards. -/
theorem Good.table {statement : Ddl} (good : Good metadata dialect first statement)
    (grown : Below first s) (ready : statement.Ready s) {k : Key} {v : Item}
    (h : (k, v) ∈ statement.adds) : (add statement.adds s (.table k.tableName)).isSome := by
  have hgrown := below_add statement.adds s
  cases good with
  | @create t ht hnew =>
    rw [(entries_key h).1]
    exact add_isSome ⟨.table, table_mem_entries t⟩
  | @index t ht hnew entry hentry =>
    obtain rfl := List.mem_singleton.mp h
    rw [(indexEntries_key hentry).1]
    exact hgrown.isSome (ready.1 _ List.mem_cons_self)
  | @alter table k' v' hlisted hold =>
    obtain ⟨rfl, rfl⟩ := Prod.mk.inj (List.mem_singleton.mp h)
    exact hgrown.isSome (grown.isSome hold)

/-- A statement that makes a table which was missing at first makes all of it. -/
theorem Good.whole {statement : Ddl} (good : Good metadata dialect first statement)
    {t : TableDef} (ht : t ∈ metadata.tables) (hnew : first (.table t.name) = none) {item : Item}
    (h : (Key.table t.name, item) ∈ statement.adds) : statement = t.create := by
  cases good with
  | @create t' ht' hnew' =>
    obtain rfl := Metadata.eq_of_name ht ht' (entries_key h).1
    rfl
  | @index t' ht' hnew' entry hentry =>
    obtain rfl := List.mem_singleton.mp h
    have hindex := (indexEntries_key hentry).2
    cases hindex
  | @alter table k v hlisted hold =>
    obtain ⟨rfl, -⟩ := Prod.mk.inj (List.mem_singleton.mp h)
    rw [Key.tableName, hnew] at hold
    cases hold

theorem Good.keeps (sane : Sane first) {statement : Ddl}
    (good : Good metadata dialect first statement) (sound : Sound metadata dialect first s)
    (ready : statement.Ready s) : Sound metadata dialect first (add statement.adds s) := by
  have hgrown := below_add statement.adds s
  refine ⟨fun k hk => ?_, sound.grown.trans hgrown, fun k v hk => ?_,
    fun t ht hnew hk k v hmem => ?_⟩
  · obtain ⟨v, hv⟩ := Option.isSome_iff_exists.mp hk
    rcases add_some hv with hold | hadded
    · exact hgrown.isSome (sound.sane k (by rw [hold]; rfl))
    · exact good.table sound.grown ready (find_some hadded)
  · rcases add_some hk with hold | hadded
    · exact sound.below k v hold
    · exact good.target sane sound.grown ready.2 hadded
  · obtain ⟨item, hitem⟩ := Option.isSome_iff_exists.mp hk
    rcases add_some hitem with hold | hadded
    · exact hgrown.isSome (sound.whole t ht hnew (by rw [hold]; rfl) k v hmem)
    · obtain rfl := good.whole ht hnew (find_some hadded)
      exact add_isSome ⟨v, hmem⟩

theorem mem_addMissing_iff {table : String} {entries : List (Key × Item)} {statement : Ddl} :
    statement ∈ addMissing table entries s ↔ (s (.table table)).isSome ∧
      ∃ entry ∈ entries, s entry.1 = none ∧ statement = ⟨[.table table], [entry]⟩ := by
  unfold addMissing
  constructor
  · intro h
    split at h
    · next htable =>
      obtain ⟨entry, hfilter, rfl⟩ := List.mem_map.mp h
      obtain ⟨hentry, hnone⟩ := List.mem_filter.mp hfilter
      exact ⟨htable, entry, hentry, Option.isNone_iff_eq_none.mp hnone, rfl⟩
    · cases h
  · rintro ⟨htable, entry, hentry, hnone, rfl⟩
    rw [if_pos htable]
    exact List.mem_map_of_mem (List.mem_filter.mpr ⟨hentry, Option.isNone_iff_eq_none.mpr hnone⟩)

/-- A planned entry belongs to a table that was there at first. -/
theorem Group.good {t : TableDef} {entries : List (Key × Item)}
    (group : Group metadata dialect t entries) (sound : Sound metadata dialect first s)
    {statement : Ddl} (h : statement ∈ addMissing t.name entries s) :
    Good metadata dialect first statement := by
  obtain ⟨htable, ⟨k, v⟩, hentry, hnone, rfl⟩ := mem_addMissing_iff.mp h
  refine .alter (group.listed hentry) ?_
  have hname : k.tableName = t.name := group.named _ hentry
  rw [hname]
  cases hfirst : first (.table t.name) with
  | some item => rfl
  | none =>
    obtain ⟨item, hitem⟩ := group.own _ hentry
    have hsome := sound.whole t group.table hfirst htable k item hitem
    rw [hnone] at hsome
    cases hsome

/-- Entries of a table that is there can be added one after the other. -/
theorem executable_entries {table : String} {entries : List (Key × Item)}
    (htable : (s (.table table)).isSome) (free : ∀ entry ∈ entries, s entry.1 = none)
    (distinct : (entries.map Prod.fst).Nodup) :
    Executable s (entries.map fun entry => ⟨[.table table], [entry]⟩) := by
  induction entries generalizing s with
  | nil => trivial
  | cons entry rest ih =>
    obtain ⟨hfirst, hrest⟩ := List.nodup_cons.mp distinct
    refine ⟨⟨?_, ?_⟩, ih ?_ ?_ hrest⟩
    · intro k hk
      rw [List.mem_singleton.mp hk]
      exact htable
    · intro other hother
      rw [List.mem_singleton.mp hother]
      exact free entry List.mem_cons_self
    · exact (below_add _ s).isSome htable
    · intro other hother
      cases hadded : add [entry] s other.1 with
      | none => rfl
      | some v =>
        rcases add_some hadded with hold | hnew
        · rw [free other (List.mem_cons_of_mem _ hother)] at hold
          cases hold
        · have hmem : (other.1, v) = entry := List.mem_singleton.mp (find_some hnew)
          have hkey : other.1 = entry.1 := by rw [← hmem]
          exact absurd (hkey ▸ List.mem_map_of_mem hother) hfirst

theorem Group.executable {t : TableDef} {entries : List (Key × Item)}
    (group : Group metadata dialect t entries) : Executable s (addMissing t.name entries s) := by
  unfold addMissing
  split
  · next htable =>
    refine executable_entries htable (fun entry hentry => ?_) ?_
    · exact Option.isNone_iff_eq_none.mp (List.mem_filter.mp hentry).2
    · exact group.distinct.sublist (List.filter_sublist.map _)
  · trivial

/-- Every entry is there or planned, once the table is there. -/
theorem Group.sees {table : String} {entries : List (Key × Item)}
    (htable : (s (.table table)).isSome)
    {k : Key} (hk : ∃ v, (k, v) ∈ entries) :
    (s k).isSome ∨ ∃ statement ∈ addMissing table entries s, ∃ v, (k, v) ∈ statement.adds := by
  obtain ⟨v, hv⟩ := hk
  cases h : s k with
  | some item => exact Or.inl rfl
  | none =>
    exact Or.inr ⟨⟨[.table table], [(k, v)]⟩,
      mem_addMissing_iff.mpr ⟨htable, (k, v), hv, h, rfl⟩, v, List.mem_singleton.mpr rfl⟩

theorem mem_createAll_iff {statement : Ddl} : statement ∈ createAll metadata s ↔
    ∃ t ∈ metadata.tables, s (.table t.name) = none ∧ statement ∈ t.createAll := by
  unfold createAll
  rw [List.mem_flatMap]
  constructor
  · rintro ⟨t, hfilter, hstatement⟩
    obtain ⟨ht, hnone⟩ := List.mem_filter.mp hfilter
    exact ⟨t, ht, Option.isNone_iff_eq_none.mp hnone, hstatement⟩
  · rintro ⟨t, ht, hnone, hstatement⟩
    exact ⟨t, List.mem_filter.mpr ⟨ht, Option.isNone_iff_eq_none.mpr hnone⟩, hstatement⟩

/-- A table of the models that is missing was missing at first. -/
theorem createAll_good (sound : Sound metadata dialect first s) {t : TableDef}
    (ht : t ∈ metadata.tables) (hnone : s (.table t.name) = none) :
    ∀ statement ∈ t.createAll, Good metadata dialect first statement := by
  have hfirst : first (.table t.name) = none := by
    cases hfirst : first (.table t.name) with
    | none => rfl
    | some item =>
      rw [sound.grown _ item hfirst] at hnone
      cases hnone
  intro statement hstatement
  rcases List.mem_cons.mp hstatement with rfl | hindex
  · exact .create ht hfirst
  · obtain ⟨entry, hentry, rfl⟩ := List.mem_map.mp hindex
    exact .index ht hfirst hentry

/-- The store after these statements has no key of a table that none of them belongs to. -/
theorem foldl_free {statements : List Ddl} {k : Key} (hk : s k = none)
    (h : ∀ statement ∈ statements, ∀ entry ∈ statement.adds, entry.1 ≠ k) :
    statements.foldl (fun s statement => add statement.adds s) s k = none := by
  induction statements generalizing s with
  | nil => exact hk
  | cons statement rest ih =>
    refine ih ?_ fun other hother => h other (List.mem_cons_of_mem _ hother)
    simp only [add, hk, Option.none_or]
    exact find_eq_none (h statement List.mem_cons_self)

theorem createAll_key {t : TableDef} {statement : Ddl} (h : statement ∈ t.createAll) :
    ∀ entry ∈ statement.adds, entry.1.tableName = t.name := by
  rcases List.mem_cons.mp h with rfl | hindex
  · exact fun entry hentry => (entries_key hentry).1
  · obtain ⟨index, hmem, rfl⟩ := List.mem_map.mp hindex
    intro entry hentry
    rw [List.mem_singleton.mp hentry]
    exact (indexEntries_key hmem).1

/-- A table is created, and then its indexes on it. -/
theorem executable_create {t : TableDef} (ht : t ∈ metadata.tables)
    (free : ∀ k, k.tableName = t.name → s k = none) : Executable s t.createAll := by
  refine ⟨⟨by simp [TableDef.create], fun entry hentry => free _ (entries_key hentry).1⟩, ?_⟩
  refine executable_entries (add_isSome ⟨.table, table_mem_entries t⟩) (fun entry hentry => ?_)
    (indexEntries_distinct ht)
  obtain ⟨hname, hindex⟩ := indexEntries_key hentry
  rw [add, free _ hname, Option.none_or]
  refine find_eq_none fun other hother heq => ?_
  rw [← heq, (entries_key hother).2] at hindex
  cases hindex

theorem executable_createAll {tables : List TableDef} (hsub : tables ⊆ metadata.tables)
    (names : (tables.map TableDef.name).Nodup)
    (free : ∀ t ∈ tables, ∀ k, k.tableName = t.name → s k = none) :
    Executable s (tables.flatMap TableDef.createAll) := by
  induction tables generalizing s with
  | nil => trivial
  | cons t rest ih =>
    obtain ⟨hfirst, hrest⟩ := List.nodup_cons.mp names
    rw [List.flatMap_cons, executable_append]
    refine ⟨executable_create (hsub List.mem_cons_self) (free t List.mem_cons_self), ?_⟩
    refine ih (fun other hother => hsub (List.mem_cons_of_mem _ hother)) hrest ?_
    intro other hother k hk
    refine foldl_free (free other (List.mem_cons_of_mem _ hother) k hk) ?_
    intro statement hstatement entry hentry heq
    have hname := createAll_key hstatement entry hentry
    rw [heq, hk] at hname
    exact hfirst (hname ▸ List.mem_map_of_mem hother)

/-- Nothing of a missing table is there. -/
theorem Sound.missing (sound : Sound metadata dialect first s) {name : String}
    (hnone : s (.table name) = none) {k : Key} (hk : k.tableName = name) : s k = none := by
  cases h : s k with
  | none => rfl
  | some item =>
    have hsome := sound.sane k (by rw [h]; rfl)
    rw [hk, hnone] at hsome
    cases hsome

def dutyOf (entries : List (Key × Item)) (k : Key) : Prop := ∃ v, (k, v) ∈ entries

/-- The names of all tables, and everything of the new ones but their indexes. -/
def creates (metadata : Metadata) (first : Schema) (k : Key) : Prop :=
  ∃ t ∈ metadata.tables,
    k = .table t.name ∨ first (.table t.name) = none ∧ ∃ v, (k, v) ∈ t.entries

/-- The inspections with the keys that each sees to. -/
def assignments (metadata : Metadata) (dialect : Dialect) (first : Schema) :
    List (Assignment Key Item) :=
  [(createAll metadata, creates metadata first),
    (ensureOrderColumns dialect, dutyOf (orderColumns dialect)),
    (ensureOrderConstraint, dutyOf orderConstraint),
    (ensureOrderSyncAudit, fun _ => False),
    (ensureProductColumns dialect, dutyOf (imageColumn dialect)),
    (ensureShops dialect, dutyOf (shopColumns dialect)),
    (ensureProductShop dialect, dutyOf (shopIdColumn dialect))]

/-- What an inspection plans is good, and can be executed. -/
structure Planned (metadata : Metadata) (dialect : Dialect) (first s : Schema)
    (plan : List Ddl) : Prop where
  good : ∀ statement ∈ plan, Good metadata dialect first statement
  executable : Executable s plan

theorem Group.planned {t : TableDef} {entries : List (Key × Item)}
    (group : Group metadata dialect t entries) (sound : Sound metadata dialect first s) :
    Planned metadata dialect first s (addMissing t.name entries s) :=
  ⟨fun _ => group.good sound, group.executable⟩

theorem planned_nil : Planned metadata dialect first s [] := ⟨by simp, trivial⟩

theorem planned_create (sound : Sound metadata dialect first s) {t : TableDef}
    (ht : t ∈ metadata.tables) (hnone : s (.table t.name) = none) :
    Planned metadata dialect first s t.createAll :=
  ⟨createAll_good sound ht hnone, executable_create ht fun _ => sound.missing hnone⟩

theorem planned_createAll (sound : Sound metadata dialect first s) :
    Planned metadata dialect first s (createAll metadata s) := by
  refine ⟨fun statement h => ?_, executable_createAll (fun _ h => (List.mem_filter.mp h).1)
    (metadata.names.sublist (List.filter_sublist.map _)) fun t ht k hk => ?_⟩
  · obtain ⟨t, ht, hnone, hstatement⟩ := mem_createAll_iff.mp h
    exact createAll_good sound ht hnone statement hstatement
  · exact sound.missing (Option.isNone_iff_eq_none.mp (List.mem_filter.mp ht).2) hk

theorem planned_orderSyncAudit (sound : Sound metadata dialect first s) :
    Planned metadata dialect first s (ensureOrderSyncAudit s) := by
  unfold ensureOrderSyncAudit
  split
  · next h =>
    exact planned_create sound metadata.orderSyncAudit_mem (Option.isNone_iff_eq_none.mp h.2)
  · exact planned_nil

theorem planned_shops (sound : Sound metadata dialect first s) :
    Planned metadata dialect first s (ensureShops dialect s) := by
  unfold ensureShops
  split
  · next h => exact planned_create sound metadata.shops_mem (Option.isNone_iff_eq_none.mp h)
  · exact (group_shopColumns metadata dialect).planned sound

theorem planned (sound : Sound metadata dialect first s) :
    ∀ phase ∈ assignments metadata dialect first,
      Planned metadata dialect first s (phase.1 s) := by
  intro phase hphase
  simp only [assignments, List.mem_cons, List.not_mem_nil, or_false] at hphase
  rcases hphase with rfl | rfl | rfl | rfl | rfl | rfl | rfl
  · exact planned_createAll sound
  · exact (group_orderColumns metadata dialect).planned sound
  · exact (group_orderConstraint metadata dialect).planned sound
  · exact planned_orderSyncAudit sound
  · exact (group_imageColumn metadata dialect).planned sound
  · exact planned_shops sound
  · exact (group_shopIdColumn metadata dialect).planned sound

/-- The schema is completed, but for indexes. -/
def Agrees (metadata : Metadata) (dialect : Dialect) (first s : Schema) : Prop :=
  ∀ k, k.isIndex = false → s k = completed metadata dialect first k

theorem Agrees.table (agrees : Agrees metadata dialect first s) {t : TableDef}
    (ht : t ∈ metadata.tables) : s (.table t.name) ≠ none := by
  intro hnone
  have hcompleted := (agrees (.table t.name) rfl).symm.trans hnone
  rw [completed, Option.or_eq_none_iff] at hcompleted
  obtain ⟨hfirst, hfind⟩ := hcompleted
  rw [Key.tableName, hfirst] at hfind
  have hmem : ∃ v, (Key.table t.name, v) ∈ modelled metadata :=
    ⟨.table, List.mem_flatMap.mpr ⟨t, ht, List.mem_append_left _ (table_mem_entries t)⟩⟩
  have hsome := find_isSome hmem
  rw [show find (Key.table t.name) (modelled metadata) = none from hfind] at hsome
  cases hsome

theorem Group.key {t : TableDef} {entries : List (Key × Item)}
    (group : Group metadata dialect t entries) {entry : Key × Item} (h : entry ∈ entries) :
    entry.1.tableName = t.name ∧ entry.1.isIndex = false := by
  obtain ⟨v, hv⟩ := group.own entry h
  exact entries_key hv

/-- The constraint of the orders is there, or the orders keep it. -/
def Admits (dialect : Dialect) (rows : List SourcePair) (s : Schema) : Prop :=
  Distinct dialect rows ∨ ((s (.table "orders")).isSome →
    (s (.constraint "orders" "uq_orders_source_ref")).isSome)

end Growth

def isFinished : Progress Key Item → Bool
  | .running [] [] => true
  | _ => false

end SchemaBootstrap
