import CrmPortal.Simulation

/-!
# Creating a customer

`create_customer` of the customer router inserts what the body holds, as it is.
-/

namespace Customers

open PyValue IdentityTable Transaction UnitOfWork CrmDatabase Simulation

/-- `bindFloat` is what a float column stores for a JSON value. -/
structure CustomersEnv where
  py : Builtins
  backend : Backend
  bindFloat : Json → Option PyFloat
  faults : Faults PyExc

/-- A value of a nullable float column. -/
def CustomersEnv.bindNullableFloat (env : CustomersEnv) : Json → Option (Option PyFloat)
  | .null => some none
  | v => (env.bindFloat v).map some

/-- A column that is NOT NULL. -/
def CustomersEnv.bindRequired (env : CustomersEnv) (column : ColumnType) :
    Json → Except PyExc String
  | .null => .error .integrityError
  | v => match env.backend.bindText column v with
    | some text => .ok text
    | none => .error .dataError

def orDataError {Value : Type} : Option Value → Except PyExc Value
  | some v => .ok v
  | none => .error .dataError

/-- The row that the INSERT binds of the body. -/
def customerRow (env : CustomersEnv) (body : Obj) (notes : String) : Except PyExc Customer := do
  let name ← env.bindRequired (.varchar 200) (body.getD "name" (.str ""))
  let email ← env.bindRequired (.varchar 200) (body.getD "email" (.str ""))
  let phone ← orDataError (env.backend.bindNullable (.varchar 50) (body.getD "phone" (.str "")))
  let company ← orDataError
    (env.backend.bindNullable (.varchar 200) (body.getD "company" (.str "")))
  let industry ← orDataError
    (env.backend.bindNullable (.varchar 100) (body.getD "industry" (.str "")))
  let revenue ← orDataError (env.bindNullableFloat (body.getD "revenue" (.int 0)))
  let notes ← orDataError (env.backend.bindNullable .text (.str notes))
  return ⟨name, email, phone, company, industry, revenue, notes⟩

def createCustomerBlock (env : CustomersEnv) (body : Obj) (notes : String) :
    Block Db PyExc Empty PUnit :=
  execute env.faults fun db => do insertCustomer (← customerRow env body notes) db

/-- The notes are searched for scripts before the block, which takes a string; what is
answered is the name. -/
def createCustomer (env : CustomersEnv) (body : Json) (db : Db) : Except PyExc Json × Db :=
  match body.asDict with
  | .error e => (.error e, db)
  | .ok fields => match (fields.getD "notes" (.str "")).asStr with
    | .error e => (.error e, db)
    | .ok notes => match run env.faults Db.rollback (createCustomerBlock env fields notes) db with
      | .rolledBack e db => (.error e, db)
      | .committed _ db => (.ok (fields.getD "name" (.str "")), db)

/-- The customers are as they were, or the one of the body is new. -/
theorem createCustomer_customers (env : CustomersEnv) (body : Json) (db : Db) :
    (∀ i, (createCustomer env body db).2.customers.row i = db.customers.row i) ∨
    ∃ fields notes row id, body.asDict = .ok fields ∧
      (fields.getD "notes" (.str "")).asStr = .ok notes ∧ customerRow env fields notes = .ok row ∧
      env.faults 0 = none ∧ env.faults 1 = none ∧
      db.customers.insert row = some (id, (createCustomer env body db).2.customers) := by
  unfold createCustomer
  rcases hfields : body.asDict with e | fields
  · exact .inl fun _ => rfl
  · rcases hnotes : (fields.getD "notes" (.str "")).asStr with e | notes
    · simp only [hnotes]
      exact .inl fun _ => trivial
    · simp only [hnotes]
      rcases run_execute env.faults Db.rollback
          (fun db => do insertCustomer (← customerRow env fields notes) db) db with
        ⟨t, hsent, hcommit, ht, hrun⟩ | ⟨-, e, reached, -, hrun⟩
      · obtain ⟨row, hrow, ht⟩ := bind_ok_iff.mp ht
        obtain ⟨id, customers, hid, rfl⟩ := insertCustomer_ok_iff.mp ht
        refine .inr ⟨fields, notes, row, id, rfl, hnotes, hrow, hsent, hcommit, ?_⟩
        unfold createCustomerBlock
        rw [hrun]
        exact hid
      · left
        intro i
        unfold createCustomerBlock
        rw [hrun]
        rfl

end Customers
