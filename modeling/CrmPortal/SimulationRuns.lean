import CrmPortal.BacklogClassification

/-!
# What the simulated orders keep

The three endpoints that make orders up draw a customer and a product, and store
what they have drawn by the same three statements. A relation between databases
that those statements keep, and that a rollback keeps, is kept by the endpoints.
-/

namespace SimulationRuns

open PyValue Transaction UnitOfWork CrmDatabase Simulation BacklogClassification

/-- The simulation marks none of its orders as synced. -/
def Unsynced (o : SimulatedOrder) : Prop := o.syncStatus ≠ "synced"

/-- The relation holds between the states before and after, however far the block gets. -/
def Respects {Answer Value : Type} (R : Db → Db → Prop) (x : Block Db PyExc Answer Value) : Prop :=
  Tx.Moves (fun w t : Work Db => R w.state t.state) x

theorem respects_bind {R : Db → Db → Prop} (trans : ∀ a b c, R a b → R b c → R a c)
    {Answer Value Next : Type} {x : Block Db PyExc Answer Value}
    {f : Value → Block Db PyExc Answer Next} (hx : Respects R x) (hf : ∀ a, Respects R (f a)) :
    Respects R (x >>= f) :=
  Tx.moves_bind (R := fun w t : Work Db => R w.state t.state)
    (fun a b c hab hbc => trans a.state b.state c.state hab hbc) hx hf

/-- The three statements of a simulated order: the order, the SELECT that finds its
identity, and a line of the order that was found, if one was. -/
theorem respects_storeSimulated {env : SimulationEnv} {R : Db → Db → Prop} (refl : ∀ a, R a a)
    (trans : ∀ a b c, R a b → R b c → R a c) {customerId productId : Json} {quantity : Int}
    {price : PyFloat} {o : SimulatedOrder}
    (hinsert : ∀ db db', insertSimulated env customerId o db = .ok db' → R db db')
    (hitem : ∀ id db db', orderBySource o.sourceOrderId db = some id →
      insertItem env id productId quantity price db = .ok db' → R db db') :
    Respects R (storeSimulated env customerId productId quantity price o) := by
  refine respects_bind trans (moves_execute refl hinsert) fun _ => ?_
  intro w
  rcases query_cases env.faults (orderBySource o.sourceOrderId) w with hquery | ⟨e, hquery⟩
  · rw [Tx.bind_of_ok _ hquery]
    rcases hfound : orderBySource o.sourceOrderId w.state with _ | id
    · exact refl w.state
    · dsimp only
      rcases execute_cases env.faults (insertItem env id productId quantity price) w.next with
        ⟨_, t, hline, rfl, hrun⟩ | ⟨e, t, hsame, hrun⟩
      · rw [Tx.bind_of_ok _ hrun]
        exact hitem id w.state t.state hfound hline
      · rw [Tx.bind_of_error _ hrun]
        exact hsame ▸ refl w.state
  · rw [Tx.bind_of_error _ hquery]
    exact refl w.state

/-- What is asked of a relation that the endpoints are to keep. -/
structure Kept (env : SimulationEnv) (R : Db → Db → Prop) : Prop where
  refl : ∀ a, R a a
  trans : ∀ a b c, R a b → R b c → R a c
  rollback : ∀ a reached, R a (a.rollback reached)
  store : ∀ customerId productId quantity price o, Unsynced o →
    Respects R (storeSimulated env customerId productId quantity price o)

section Endpoints
variable {env : SimulationEnv} {R : Db → Db → Prop}

theorem Kept.reads {Answer Value : Type} (h : Kept env R) {x : Block Db PyExc Answer Value}
    (hx : Reads x) : Respects R x :=
  hx.moves (R := R) h.refl

theorem Kept.bind {Answer Value Next : Type} (h : Kept env R) {x : Block Db PyExc Answer Value}
    {f : Value → Block Db PyExc Answer Next} (hx : Respects R x) (hf : ∀ a, Respects R (f a)) :
    Respects R (x >>= f) :=
  respects_bind h.trans hx hf

theorem Kept.generateOrder (h : Kept env R) (body : Obj) (draw : Draw) :
    Respects R (Simulation.generateOrder env body draw) := by
  refine h.bind (h.reads (roundCustomer_reads body draw)) fun customerId => ?_
  refine h.bind (h.reads (reads_attempt _)) fun found => ?_
  refine h.bind (h.reads (reads_orReturn _ _)) fun product => ?_
  refine h.bind (h.reads (reads_attempt _)) fun _ => ?_
  refine h.bind (h.reads (reads_attempt _)) fun total => ?_
  refine h.bind (h.reads (reads_orFail _ _)) fun status => ?_
  refine h.bind (h.store _ _ _ _ _ ?_) fun _ => h.reads (reads_pure _)
  show "local" ≠ "synced"
  decide

theorem Kept.generateRounds (h : Kept env R) (body : Obj) (draws : List Draw) (total : PyFloat)
    (orderIds : List Nat) :
    Respects R (Simulation.generateRounds env body draws total orderIds) := by
  induction draws generalizing total orderIds with
  | nil => exact h.reads (reads_pure _)
  | cons draw rest ih => exact h.bind (h.generateOrder body draw) fun _ => ih _ _

theorem Kept.generateBacklogRound (h : Kept env R) (draw : Draw) :
    Respects R (Simulation.generateBacklogRound env draw) := by
  refine h.bind (h.reads (reads_attempt _)) fun customer => ?_
  refine h.bind (h.reads (reads_attempt _)) fun product => ?_
  rcases customer with _ | customerId
  · exact h.reads (reads_pure _)
  · rcases product with _ | ⟨productId, price⟩
    · exact h.reads (reads_pure _)
    · refine h.bind (h.reads (reads_attempt _)) fun total => h.store _ _ _ _ _ ?_
      show "pending" ≠ "synced"
      decide

theorem Kept.backlogRounds (h : Kept env R) (draws : List Draw) (orderIds : List Nat) :
    Respects R (Simulation.backlogRounds env draws orderIds) := by
  induction draws generalizing orderIds with
  | nil => exact h.reads (reads_pure _)
  | cons draw rest ih => exact h.bind (h.generateBacklogRound draw) fun _ => ih _

theorem Kept.highValueBlock (h : Kept env R) (body : Obj) (draw : Draw) :
    Respects R (Simulation.highValueBlock env body draw) := by
  refine h.bind (h.reads (roundCustomer_reads body draw)) fun customerId => ?_
  refine h.bind (h.reads (reads_attempt _)) fun found => ?_
  refine h.bind (h.reads (reads_orReturn _ _)) fun product => ?_
  refine h.bind (h.store _ _ _ _ _ ?_) fun _ => h.reads (reads_pure _)
  show "local" ≠ "synced"
  decide

/-- A session of its own stores what its block reached, or takes it back. -/
theorem Kept.ownSession (h : Kept env R) {Answer : Type} {block : Block Db PyExc Answer Answer}
    (hblock : Respects R block) (faults : Faults PyExc) (db : Db) :
    R db (Simulation.ownSession faults block db).2 := by
  rcases ownSession_cases faults block db with ⟨answer, w, hrun, -, hstate⟩ | ⟨reached, hstate⟩
  · have hmoves : R db (block ⟨db, 0⟩).2.state := hblock ⟨db, 0⟩
    rw [hrun] at hmoves
    rw [hstate]
    exact hmoves
  · rw [hstate]
    exact h.rollback db reached

/-- What is read of the body first leaves the database alone. -/
theorem Kept.ofExcept (h : Kept env R) {Value Next : Type} (x : Except PyExc Value)
    {f : Value → Tx Db PyExc Next} {db : Db} (hf : ∀ a, x = .ok a → R db (f a db).2) :
    R db ((Tx.ofExcept x >>= f) db).2 := by
  rcases x with e | a
  · exact h.refl db
  · exact hf a rfl

theorem Kept.generateOrders (h : Kept env R) (body : Json) (draws : Nat → Draw) (db : Db) :
    R db (Simulation.generateOrders env body draws db).2 :=
  h.ofExcept _ fun _ _ => h.ofExcept _ fun _ _ =>
    h.ownSession (h.generateRounds _ _ _ _) env.faults db

theorem Kept.generateBacklog (h : Kept env R) (body : Json) (draws : Nat → Draw) (db : Db) :
    R db (Simulation.generateBacklog env body draws db).2 :=
  h.ofExcept _ fun _ _ => h.ofExcept _ fun _ _ =>
    h.ownSession (h.backlogRounds _ _) env.faults db

theorem Kept.highValueOrder (h : Kept env R) (body : Json) (draw : Draw) (db : Db) :
    R db (Simulation.highValueOrder env body draw db).2 :=
  h.ofExcept _ fun _ _ => h.ownSession (h.highValueBlock _ _) env.faults db

end Endpoints

end SimulationRuns
