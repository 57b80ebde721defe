import CrmPortal.Library.Schedule
import Mathlib.Logic.Function.Basic
import Mathlib.Data.List.Basic
import Mathlib.Data.List.Induction

/-!
# Concurrent replacement under READ COMMITTED

Several transactions replace rows of one table together with their child rows.
A SELECT reads what is committed or the transaction's own, unless the session has
the object already. An UPDATE writes the columns whose new value differs from the
one the session has loaded, and keeps the row locked until the commit. A DELETE of
children marks the committed rows that it sees; the INSERTs stay with the session
until then.

Every entry has a savepoint. One that is given up, wherever it has got to, is undone
back to it and the transaction goes on; a transaction may also be aborted as a whole.

Each cell remembers the write it comes from. The memory is for the theorems only:
no step reads it.
-/

namespace ReadCommitted

/-- One column after an UPDATE: left as it was found if it was not changed. -/
def pick {Value : Type} [DecidableEq Value] (loaded found new : Value) : Value :=
  if new = loaded then found else new

theorem pick_current {Value : Type} [DecidableEq Value] (loaded new : Value) :
    pick loaded loaded new = new := by
  unfold pick
  split
  · next h => exact h.symm
  · rfl

/-- The new value arrives, or it was the loaded one and the found one stays. -/
theorem pick_cases {Value : Type} [DecidableEq Value] (loaded found new : Value) :
    pick loaded found new = new ∨ (new = loaded ∧ pick loaded found new = found) := by
  unfold pick
  split
  · next h => exact Or.inr ⟨h, rfl⟩
  · exact Or.inl rfl

variable {Run Id Row Child : Type}

/-- What one entry does to a row: it assigns attributes of the loaded object and
replaces the children. -/
structure Version (Row Child : Type) where
  assign : Row → Row
  children : List Child

/-- The write that a cell comes from. -/
structure Origin (Run Row Child : Type) where
  run : Run
  version : Version Row Child
  loaded : Row
  found : Row

structure Cell (Run Row Child : Type) where
  row : Row
  origin : Option (Origin Run Row Child)

/-- The cell that `r` leaves behind an UPDATE. -/
def Cell.write (overwrite : Row → Row → Row → Row) (r : Run) (v : Version Row Child)
    (loaded found : Row) : Cell Run Row Child :=
  ⟨overwrite loaded found (v.assign loaded), some ⟨r, v, loaded, found⟩⟩

structure ChildRow (Run Id Child : Type) where
  parent : Id
  child : Child
  erasedBy : Option Run

inductive Stage where
  | select
  | update
  | delete
  | insert
  deriving DecidableEq

abbrev Feed (Id Row Child : Type) := List (Id × Version Row Child)

/-- What the savepoint of an entry brings back: the row as the transaction held it
then, if it did, and its new children. -/
structure Savepoint (Run Id Row Child : Type) where
  cell : Option (Cell Run Row Child)
  added : List (Id × Child)

/-- `done` are the entries that were stored, `rest` those ahead of the transaction. -/
structure Session (Run Id Row Child : Type) where
  done : Feed Id Row Child
  rest : Feed Id Row Child
  stage : Stage
  object : Id → Option Row
  added : List (Id × Child)
  savepoint : Savepoint Run Id Row Child
  ended : Bool

/-- `commits` are the transactions that committed, each with the entries it stored. -/
structure State (Run Id Row Child : Type) where
  committed : Id → Cell Run Row Child
  locked : Id → Option (Run × Cell Run Row Child)
  children : List (ChildRow Run Id Child)
  session : Run → Session Run Id Row Child
  commits : List (Run × Feed Id Row Child)

variable [DecidableEq Run] [DecidableEq Id]

namespace State

def setSession (s : State Run Id Row Child) (r : Run) (x : Session Run Id Row Child) :
    State Run Id Row Child :=
  { s with session := Function.update s.session r x }

def lock (s : State Run Id Row Child) (r : Run) (o : Id) (cell : Cell Run Row Child) :
    State Run Id Row Child :=
  { s with locked := Function.update s.locked o (some (r, cell)) }

def mark (s : State Run Id Row Child) (r : Run) (o : Id) : State Run Id Row Child :=
  { s with children := s.children.map fun row =>
      if row.parent = o then { row with erasedBy := some r } else row }

/-- The cell that `r` has locked. -/
def held (s : State Run Id Row Child) (r : Run) (o : Id) : Option (Cell Run Row Child) :=
  match s.locked o with
  | none => none
  | some (owner, cell) => if owner = r then some cell else none

/-- The row as the UPDATE of `r` finds it; `none` while another holds the lock. -/
def found (s : State Run Id Row Child) (r : Run) (o : Id) : Option (Cell Run Row Child) :=
  match s.locked o with
  | none => some (s.committed o)
  | some (owner, cell) => if owner = r then some cell else none

/-- The row as a SELECT of `r` reads it: its own, or the committed one. -/
def visible (s : State Run Id Row Child) (r : Run) (o : Id) : Row :=
  ((s.held r o).getD (s.committed o)).row

/-- The savepoint is the last thing before the entry looks at the row. -/
def select (s : State Run Id Row Child) (r : Run) (o : Id) : State Run Id Row Child :=
  let x := s.session r
  s.setSession r { x with
    object := Function.update x.object o (some ((x.object o).getD (s.visible r o)))
    savepoint := ⟨s.held r o, x.added⟩
    stage := .update }

def update (overwrite : Row → Row → Row → Row) (s : State Run Id Row Child) (r : Run) (o : Id)
    (v : Version Row Child) : Option (State Run Id Row Child) :=
  let x := s.session r
  match x.object o, s.found r o with
  | some loaded, some cell => some ((s.setSession r { x with
      object := Function.update x.object o (some (v.assign loaded))
      stage := .delete }).lock r o (Cell.write overwrite r v loaded cell.row))
  | _, _ => none

/-- The committed children of `o` are marked; those already marked by another
transaction are locked. The session's own new ones go at once. -/
def delete (s : State Run Id Row Child) (r : Run) (o : Id) : Option (State Run Id Row Child) :=
  let x := s.session r
  if s.children.all (fun row => decide (row.parent ≠ o ∨ row.erasedBy = none ∨
      row.erasedBy = some r)) then
    some ((s.setSession r { x with
      added := x.added.filter (fun row => decide (row.1 ≠ o))
      stage := .insert }).mark r o)
  else none

def insert (s : State Run Id Row Child) (r : Run) (o : Id) (v : Version Row Child)
    (rest : Feed Id Row Child) : State Run Id Row Child :=
  let x := s.session r
  s.setSession r { x with
    added := x.added ++ v.children.map (Prod.mk o)
    done := x.done ++ [(o, v)]
    rest := rest
    stage := .select }

/-- The lock on `o` is what it was at the savepoint, and where there was none the
marks go with it. -/
def undo (s : State Run Id Row Child) (r : Run) (o : Id) : State Run Id Row Child :=
  { s with
    locked := Function.update s.locked o ((s.session r).savepoint.cell.map (Prod.mk r))
    children := s.children.map fun row =>
      if row.parent = o ∧ row.erasedBy = some r ∧ (s.session r).savepoint.cell.isNone then
        { row with erasedBy := none }
      else row }

/-- ROLLBACK TO SAVEPOINT, as far as the entry has got. An object that was assigned
to since is expired, to be read again. -/
def giveUp (s : State Run Id Row Child) (r : Run) (o : Id) (rest : Feed Id Row Child) :
    State Run Id Row Child :=
  let x := s.session r
  let expired := Function.update x.object o none
  match x.stage with
  | .select => s.setSession r { x with rest := rest }
  | .update => s.setSession r { x with object := expired, rest := rest, stage := .select }
  | .delete | .insert => (s.undo r o).setSession r { x with
      object := expired
      added := x.savepoint.added
      rest := rest
      stage := .select }

def release (s : State Run Id Row Child) (r : Run) (o : Id) : Option (Run × Cell Run Row Child) :=
  if (s.held r o).isSome then none else s.locked o

def commit (s : State Run Id Row Child) (r : Run) : State Run Id Row Child :=
  let x := s.session r
  { s.setSession r { x with ended := true } with
    committed := fun o => (s.held r o).getD (s.committed o)
    locked := s.release r
    children := s.children.filter (fun row => decide (row.erasedBy ≠ some r)) ++
      x.added.map fun row => ⟨row.1, row.2, none⟩
    commits := s.commits ++ [(r, x.done)] }

def abort (s : State Run Id Row Child) (r : Run) : State Run Id Row Child :=
  let x := s.session r
  { s.setSession r { x with rest := [], stage := .select, added := [], ended := true } with
    locked := s.release r
    children := s.children.map fun row =>
      if row.erasedBy = some r then { row with erasedBy := none } else row }

/-- A session holds its objects weakly: one that no entry is at work on may be gone. -/
def forget (s : State Run Id Row Child) (r : Run) (o : Id) : State Run Id Row Child :=
  let x := s.session r
  s.setSession r { x with object := Function.update x.object o none }

end State

/-- The next statement of transaction `r`, if it has one that is not blocked. -/
def advance (overwrite : Row → Row → Row → Row) (s : State Run Id Row Child) (r : Run) :
    Option (State Run Id Row Child) :=
  let x := s.session r
  match x.rest with
  | [] => if x.ended then none else some (s.commit r)
  | (o, v) :: rest => match x.stage with
    | .select => some (s.select r o)
    | .update => s.update overwrite r o v
    | .delete => s.delete r o
    | .insert => some (s.insert r o v rest)

inductive Action (Run Id : Type) where
  | next (r : Run)
  | fail (r : Run)
  | abort (r : Run)
  | forget (r : Run) (o : Id)
  deriving DecidableEq

def step (overwrite : Row → Row → Row → Row) (s : State Run Id Row Child) :
    Action Run Id → Option (State Run Id Row Child)
  | .next r => advance overwrite s r
  | .fail r => match (s.session r).rest with
    | [] => none
    | (o, _) :: rest => some (s.giveUp r o rest)
  | .abort r => if (s.session r).ended then none else some (s.abort r)
  | .forget r o => if (s.session r).stage = .select then some (s.forget r o) else none

/-- Committed rows and children, and every transaction at its beginning. -/
def start (rows : Id → Row) (children : List (Id × Child)) (feed : Run → Feed Id Row Child) :
    State Run Id Row Child where
  committed := fun o => ⟨rows o, none⟩
  locked := fun _ => none
  children := children.map fun row => ⟨row.1, row.2, none⟩
  session := fun r => ⟨[], feed r, .select, fun _ => none, [], ⟨none, []⟩, false⟩
  commits := []

theorem advance_cases {overwrite : Row → Row → Row → Row} {s t : State Run Id Row Child} {r : Run}
    (h : advance overwrite s r = some t) :
    ((s.session r).rest = [] ∧ (s.session r).ended = false ∧ t = s.commit r) ∨
    ∃ o v rest, (s.session r).rest = (o, v) :: rest ∧
      (((s.session r).stage = .select ∧ t = s.select r o) ∨
        ((s.session r).stage = .update ∧ s.update overwrite r o v = some t) ∨
        ((s.session r).stage = .delete ∧ s.delete r o = some t) ∨
        ((s.session r).stage = .insert ∧ t = s.insert r o v rest)) := by
  unfold advance at h
  dsimp only at h
  rcases hrest : (s.session r).rest with _ | ⟨⟨o, v⟩, rest⟩
  · simp only [hrest] at h
    split at h
    · cases h
    · next hended => exact Or.inl ⟨rfl, by simpa using hended, (Option.some.inj h).symm⟩
  · refine Or.inr ⟨o, v, rest, rfl, ?_⟩
    simp only [hrest] at h
    rcases hstage : (s.session r).stage with _ | _ | _ | _
    · simp only [hstage] at h
      exact Or.inl ⟨rfl, (Option.some.inj h).symm⟩
    · simp only [hstage] at h
      exact Or.inr (Or.inl ⟨rfl, h⟩)
    · simp only [hstage] at h
      exact Or.inr (Or.inr (Or.inl ⟨rfl, h⟩))
    · simp only [hstage] at h
      exact Or.inr (Or.inr (Or.inr ⟨rfl, (Option.some.inj h).symm⟩))

namespace State

omit [DecidableEq Id] in
theorem held_eq_some_iff {s : State Run Id Row Child} {r : Run} {o : Id}
    {cell : Cell Run Row Child} : s.held r o = some cell ↔ s.locked o = some (r, cell) := by
  unfold held
  rcases s.locked o with _ | ⟨owner, other⟩
  · simp
  · by_cases howner : owner = r
    · simp [howner]
    · simp [howner]

omit [DecidableEq Id] in
theorem release_eq_some_iff {s : State Run Id Row Child} {q r : Run} {o : Id}
    {cell : Cell Run Row Child} :
    s.release r o = some (q, cell) ↔ s.locked o = some (q, cell) ∧ q ≠ r := by
  unfold release held
  rcases s.locked o with _ | ⟨owner, other⟩
  · simp
  · by_cases howner : owner = r
    · subst howner
      simp only [if_true, Option.isSome_some, reduceCtorEq, false_iff, not_and, not_not]
      intro h
      exact (Prod.ext_iff.mp (Option.some.inj h)).1.symm
    · simp only [if_neg howner, Option.isSome_none, Bool.false_eq_true, if_false]
      refine (and_iff_left_of_imp ?_).symm
      intro h
      have howns : owner = q := (Prod.ext_iff.mp (Option.some.inj h)).1
      rwa [howns] at howner

/-- The UPDATE is sent with the loaded object, on a row that nobody else holds. -/
theorem update_eq_some {overwrite : Row → Row → Row → Row} {s t : State Run Id Row Child}
    {r : Run} {o : Id} {v : Version Row Child} (h : s.update overwrite r o v = some t) :
    ∃ loaded cell, s.found r o = some cell ∧ t = (s.setSession r { s.session r with
      object := Function.update (s.session r).object o (some (v.assign loaded))
      stage := .delete }).lock r o (Cell.write overwrite r v loaded cell.row) := by
  unfold update at h
  dsimp only at h
  split at h
  · next loaded cell _ hfound => exact ⟨loaded, cell, hfound, (Option.some.inj h).symm⟩
  · cases h

omit [DecidableEq Id] in
/-- Nobody but `r` holds the row. -/
theorem found_free {s : State Run Id Row Child} {r : Run} {o : Id} {cell : Cell Run Row Child}
    (h : s.found r o = some cell) {q : Run} {other : Cell Run Row Child}
    (hlock : s.locked o = some (q, other)) : q = r := by
  unfold found at h
  rw [hlock] at h
  dsimp only at h
  split at h
  · next howner => exact howner
  · cases h

theorem delete_eq_some {s t : State Run Id Row Child} {r : Run} {o : Id}
    (h : s.delete r o = some t) : t = (s.setSession r { s.session r with
      added := (s.session r).added.filter (fun row => decide (row.1 ≠ o))
      stage := .insert }).mark r o := by
  unfold delete at h
  dsimp only at h
  split at h
  · exact (Option.some.inj h).symm
  · cases h

end State

/-- The last entry for `o` in a list of entries. -/
def lastFor {Value : Type} (o : Id) (entries : List (Id × Value)) : Option Value :=
  entries.foldl (fun found entry => if entry.1 = o then some entry.2 else found) none

theorem lastFor_concat {Value : Type} (o p : Id) (v : Value) (entries : List (Id × Value)) :
    lastFor o (entries ++ [(p, v)]) = if p = o then some v else lastFor o entries := by
  rw [lastFor, List.foldl_append]
  rfl

theorem lastFor_map {Value Image : Type} (f : Id → Value → Image) (o : Id)
    (entries : List (Id × Value)) :
    lastFor o (entries.map fun entry => (entry.1, f entry.1 entry.2)) =
      (lastFor o entries).map (f o) := by
  induction entries using List.reverseRecOn with
  | nil => rfl
  | append_singleton entries entry ih =>
    rw [List.map_append, List.map_singleton, lastFor_concat, lastFor_concat, ih]
    split
    · next h => rw [h, Option.map_some]
    · rfl

theorem lastFor_eq_none_iff {Value : Type} (o : Id) (entries : List (Id × Value)) :
    lastFor o entries = none ↔ ∀ v, (o, v) ∉ entries := by
  induction entries using List.reverseRecOn with
  | nil => simp [lastFor]
  | append_singleton entries entry ih =>
    rw [lastFor_concat]
    split
    · next h =>
      constructor
      · intro hnone
        cases hnone
      · intro hall
        exact absurd (List.mem_append_right entries (by simp [← h])) (hall entry.2)
    · next h =>
      rw [ih]
      constructor
      · intro hall v hv
        rcases List.mem_append.mp hv with hold | hnew
        · exact hall v hold
        · exact h (List.mem_singleton.mp hnew ▸ rfl)
      · intro hall v hv
        exact hall v (List.mem_append_left _ hv)

/-- The children of `o` among the new ones of a session. -/
def newChildren (o : Id) (added : List (Id × Child)) : List Child :=
  (added.filter fun row => decide (row.1 = o)).map Prod.snd

theorem newChildren_append (o : Id) (first second : List (Id × Child)) :
    newChildren o (first ++ second) = newChildren o first ++ newChildren o second := by
  simp [newChildren]

theorem newChildren_own (o : Id) (children : List Child) :
    newChildren o (children.map (Prod.mk o)) = children := by
  induction children with
  | nil => rfl
  | cons child children ih =>
    unfold newChildren at ih ⊢
    rw [List.map_cons, List.filter_cons_of_pos (by simp), List.map_cons, ih]

theorem newChildren_other {o p : Id} (h : o ≠ p) (children : List Child) :
    newChildren p (children.map (Prod.mk o)) = [] := by
  simp [newChildren, h]

theorem newChildren_without {o p : Id} (h : p ≠ o) (added : List (Id × Child)) :
    newChildren p (added.filter fun row => decide (row.1 ≠ o)) = newChildren p added := by
  unfold newChildren
  rw [List.filter_filter]
  congr 1
  refine List.filter_congr ?_
  intro row _
  by_cases hrow : row.1 = p
  · simp [hrow, h]
  · simp [hrow]

theorem newChildren_dropped (o : Id) (added : List (Id × Child)) :
    newChildren o (added.filter fun row => decide (row.1 ≠ o)) = [] := by
  unfold newChildren
  rw [List.filter_filter, List.filter_eq_nil_iff.mpr]
  · rfl
  · simp

theorem exists_of_newChildren {o : Id} {added : List (Id × Child)} (h : newChildren o added ≠ []) :
    ∃ row ∈ added, row.1 = o := by
  by_contra hnone
  refine h ?_
  rw [newChildren, List.map_eq_nil_iff, List.filter_eq_nil_iff]
  intro row hrow ho
  exact hnone ⟨row, hrow, of_decide_eq_true ho⟩

theorem mem_newChildren {o : Id} {row : Id × Child} {added : List (Id × Child)}
    (hrow : row ∈ added) (ho : row.1 = o) : newChildren o added ≠ [] := by
  intro hnone
  rw [newChildren, List.map_eq_nil_iff, List.filter_eq_nil_iff] at hnone
  exact hnone row hrow (decide_eq_true ho)

/-- The committed children of `o`. -/
def childrenOf (o : Id) (children : List (ChildRow Run Id Child)) : List Child :=
  (children.filter fun row => decide (row.parent = o)).map ChildRow.child

/-- The row that the write left. -/
def Origin.result (overwrite : Row → Row → Row → Row) (g : Origin Run Row Child) : Row :=
  overwrite g.loaded g.found (g.version.assign g.loaded)

/-- Between its UPDATE and its INSERTs the transaction is at work on `o`. -/
def AtWork (x : Session Run Id Row Child) (o : Id) (v : Version Row Child) : Prop :=
  (x.stage = .delete ∨ x.stage = .insert) ∧ ∃ rest, x.rest = (o, v) :: rest

/-- `r` committed a write of `o` that ended with `v`, and no transaction that committed
later stored an entry for it. -/
def LastWriter (commits : List (Run × Feed Id Row Child)) (o : Id) (r : Run)
    (v : Version Row Child) : Prop :=
  ∃ before stored after, commits = before ++ (r, stored) :: after ∧
    lastFor o stored = some v ∧ ∀ later ∈ after, lastFor o later.2 = none

/-- A cell that `r` holds is as the last of the entries `done` has left it. -/
structure Settled (overwrite : Row → Row → Row → Row) (children : List (ChildRow Run Id Child))
    (r : Run) (done : Feed Id Row Child) (added : List (Id × Child)) (o : Id)
    (cell : Cell Run Row Child) : Prop where
  origin : ∃ g, cell.origin = some g ∧ g.run = r ∧ cell.row = g.result overwrite ∧
    lastFor o done = some g.version ∧ newChildren o added = g.version.children
  marked : ∀ row ∈ children, row.parent = o → row.erasedBy = some r

/-- What the savepoint of an entry for `o` brings back is as the entries before have
left it. -/
structure Saved (overwrite : Row → Row → Row → Row)
    (locked : Id → Option (Run × Cell Run Row Child)) (children : List (ChildRow Run Id Child))
    (r : Run) (x : Session Run Id Row Child) (o : Id) : Prop where
  others : x.savepoint.added.filter (fun row => decide (row.1 ≠ o)) =
    x.added.filter (fun row => decide (row.1 ≠ o))
  free : x.savepoint.cell = none →
    lastFor o x.done = none ∧ newChildren o x.savepoint.added = []
  held : ∀ cell, x.savepoint.cell = some cell → (∃ mine, locked o = some (r, mine)) ∧
    Settled overwrite children r x.done x.savepoint.added o cell

/-- What holds between one transaction and the locks and children of the table. -/
structure SessionInv (overwrite : Row → Row → Row → Row) (entries : Feed Id Row Child)
    (locked : Id → Option (Run × Cell Run Row Child)) (children : List (ChildRow Run Id Child))
    (r : Run) (x : Session Run Id Row Child) : Prop where
  split : (x.done ++ x.rest).Sublist entries
  finished : x.ended = true → x.rest = []
  locks : ∀ o cell, locked o = some (r, cell) → x.ended = false ∧
    ∃ g, cell.origin = some g ∧ g.run = r ∧ cell.row = g.result overwrite
  work : ∀ o v, AtWork x o v → ∃ cell g, locked o = some (r, cell) ∧
    cell.origin = some g ∧ g.version = v
  erased : ∀ o v rest, x.stage = .insert → x.rest = (o, v) :: rest →
    (∀ row ∈ children, row.parent = o → row.erasedBy = some r) ∧ newChildren o x.added = []
  settled : ∀ o cell, locked o = some (r, cell) → (∀ v, ¬ AtWork x o v) →
    Settled overwrite children r x.done x.added o cell
  held : ∀ o v, x.ended = false → lastFor o x.done = some v → ∃ cell, locked o = some (r, cell)
  marks : ∀ row ∈ children, row.erasedBy = some r → ∃ cell, locked row.parent = some (r, cell)
  adds : x.ended = false → ∀ row ∈ x.added, ∃ cell, locked row.1 = some (r, cell)
  saved : ∀ o v rest, x.stage ≠ .select → x.rest = (o, v) :: rest →
    Saved overwrite locked children r x o

/-- What holds of a committed row that has been written, and of its children. -/
structure Written (overwrite : Row → Row → Row → Row) (s : State Run Id Row Child) (o : Id)
    (g : Origin Run Row Child) : Prop where
  row : (s.committed o).row = g.result overwrite
  children : childrenOf o s.children = g.version.children
  writer : LastWriter s.commits o g.run g.version

structure Inv (overwrite : Row → Row → Row → Row) (feed : Run → Feed Id Row Child)
    (s : State Run Id Row Child) : Prop where
  sessions : ∀ r, SessionInv overwrite (feed r) s.locked s.children r (s.session r)
  logged : ∀ r stored, (r, stored) ∈ s.commits → stored.Sublist (feed r)
  written : ∀ o g, (s.committed o).origin = some g → Written overwrite s o g
  untouched : ∀ o, (s.committed o).origin = none → ∀ entry ∈ s.commits, lastFor o entry.2 = none

omit [DecidableEq Run] in
theorem inv_start (overwrite : Row → Row → Row → Row) (rows : Id → Row)
    (children : List (Id × Child)) (feed : Run → Feed Id Row Child) :
    Inv overwrite feed (start rows children feed) where
  sessions := by
    intro r
    refine ⟨List.Sublist.refl _, ?_, ?_, ?_, ?_, ?_, ?_, ?_, ?_, ?_⟩
    · intro h
      cases h
    · intro o cell h
      cases h
    · rintro o v ⟨h | h, _⟩
      · cases h
      · cases h
    · intro o v rest h
      cases h
    · intro o cell h
      cases h
    · intro o v _ h
      cases h
    · intro row hrow h
      obtain ⟨_, _, rfl⟩ := List.mem_map.mp hrow
      cases h
    · intro _ row h
      cases h
    · intro o v rest h
      exact absurd rfl h
  logged := by
    intro r stored h
    cases h
  written := by
    intro o g h
    cases h
  untouched := by
    intro o _ entry h
    cases h

section Statements

variable {overwrite : Row → Row → Row → Row} {feed : Run → Feed Id Row Child}
  {s t : State Run Id Row Child} {q r : Run} {o : Id} {v : Version Row Child}
  {rest : Feed Id Row Child}

omit [DecidableEq Id] in
@[simp] theorem State.setSession_self (s : State Run Id Row Child) (r : Run)
    (x : Session Run Id Row Child) : (s.setSession r x).session r = x := by
  simp [State.setSession]

omit [DecidableEq Id] in
theorem State.setSession_of_ne {s : State Run Id Row Child} {q r : Run}
    (x : Session Run Id Row Child) (h : q ≠ r) : (s.setSession r x).session q = s.session q := by
  simp [State.setSession, h]

omit [DecidableEq Run] in
theorem State.lock_self (s : State Run Id Row Child) (r : Run) (o : Id)
    (cell : Cell Run Row Child) : (s.lock r o cell).locked o = some (r, cell) :=
  Function.update_self o _ s.locked

omit [DecidableEq Run] in
theorem State.lock_of_ne (s : State Run Id Row Child) (r : Run) {o p : Id}
    (cell : Cell Run Row Child) (h : p ≠ o) : (s.lock r o cell).locked p = s.locked p :=
  Function.update_of_ne h _ s.locked

omit [DecidableEq Run] in
/-- A child of `o` is marked, and the others are as they were. -/
theorem State.mem_mark {s : State Run Id Row Child} {r : Run} {o : Id}
    {row : ChildRow Run Id Child} (h : row ∈ (s.mark r o).children) :
    (row.parent = o ∧ row.erasedBy = some r) ∨ (row.parent ≠ o ∧ row ∈ s.children) := by
  obtain ⟨before, hbefore, rfl⟩ := List.mem_map.mp h
  split
  · next hparent => exact Or.inl ⟨hparent, rfl⟩
  · next hparent => exact Or.inr ⟨hparent, hbefore⟩

/-- Where the row was held at the savepoint the children are left as they are. -/
theorem State.mem_undo_of_held {s : State Run Id Row Child} {r : Run} {o : Id}
    {cell : Cell Run Row Child} (hcell : (s.session r).savepoint.cell = some cell)
    {row : ChildRow Run Id Child} (h : row ∈ (s.undo r o).children) : row ∈ s.children := by
  obtain ⟨before, hbefore, rfl⟩ := List.mem_map.mp h
  simpa [hcell] using hbefore

/-- A child of `o` is without the mark of `r`, and the others are as they were. -/
theorem State.mem_undo_of_free {s : State Run Id Row Child} {r : Run} {o : Id}
    (hcell : (s.session r).savepoint.cell = none) {row : ChildRow Run Id Child}
    (h : row ∈ (s.undo r o).children) :
    (row.parent = o ∧ row.erasedBy = none) ∨
      (row ∈ s.children ∧ ¬ (row.parent = o ∧ row.erasedBy = some r)) := by
  obtain ⟨before, hbefore, rfl⟩ := List.mem_map.mp h
  split
  · next hmark => exact Or.inl ⟨hmark.1, rfl⟩
  · next hmark =>
    refine Or.inr ⟨hbefore, fun hboth => hmark ⟨hboth.1, hboth.2, ?_⟩⟩
    rw [hcell]
    rfl

omit [DecidableEq Run] [DecidableEq Id] in
theorem not_atWork {x : Session Run Id Row Child} (h : x.stage = .select ∨ x.stage = .update)
    (p : Id) (w : Version Row Child) : ¬ AtWork x p w := by
  rintro ⟨hdelete | hinsert, _⟩
  · rw [hdelete] at h
    rcases h with h | h
    · cases h
    · cases h
  · rw [hinsert] at h
    rcases h with h | h
    · cases h
    · cases h

omit [DecidableEq Run] in
theorem Settled.frame {children children' : List (ChildRow Run Id Child)}
    {done : Feed Id Row Child} {added : List (Id × Child)} {cell : Cell Run Row Child}
    (h : Settled overwrite children r done added o cell)
    (hchildren : ∀ row ∈ children', row.parent = o → row ∈ children ∨ row.erasedBy = some r) :
    Settled overwrite children' r done added o cell where
  origin := h.origin
  marked := by
    intro row hrow hparent
    rcases hchildren row hrow hparent with hold | hmark
    · exact h.marked row hold hparent
    · exact hmark

omit [DecidableEq Run] in
theorem Saved.frame {x : Session Run Id Row Child}
    {locked locked' : Id → Option (Run × Cell Run Row Child)}
    {children children' : List (ChildRow Run Id Child)}
    (h : Saved overwrite locked children r x o)
    (hlocked : ∀ cell, locked o = some (r, cell) → ∃ mine, locked' o = some (r, mine))
    (hchildren : ∀ mine, locked o = some (r, mine) →
      ∀ row ∈ children', row.parent = o → row ∈ children ∨ row.erasedBy = some r) :
    Saved overwrite locked' children' r x o where
  others := h.others
  free := h.free
  held := by
    intro cell hcell
    obtain ⟨⟨mine, hmine⟩, hsettled⟩ := h.held cell hcell
    exact ⟨hlocked mine hmine, hsettled.frame (hchildren mine hmine)⟩

omit [DecidableEq Run] in
/-- Another transaction's statement leaves the rows that `q` holds and the
children that `q` has marked. -/
theorem SessionInv.frame {entries : Feed Id Row Child} {x : Session Run Id Row Child}
    {locked locked' : Id → Option (Run × Cell Run Row Child)}
    {children children' : List (ChildRow Run Id Child)}
    (h : SessionInv overwrite entries locked children q x)
    (hlocked : ∀ p cell, locked' p = some (q, cell) ↔ locked p = some (q, cell))
    (hchildren : ∀ row ∈ children', row.erasedBy = some q ∨
      (∃ cell, locked row.parent = some (q, cell)) → row ∈ children) :
    SessionInv overwrite entries locked' children' q x := by
  have hunder : ∀ p cell, locked p = some (q, cell) →
      ∀ row ∈ children', row.parent = p → row ∈ children := by
    intro p cell hlock row hrow hparent
    exact hchildren row hrow (Or.inr ⟨cell, by rw [hparent]; exact hlock⟩)
  refine ⟨h.split, h.finished, ?_, ?_, ?_, ?_, ?_, ?_, ?_, ?_⟩
  · intro p cell hlock
    exact h.locks p cell ((hlocked p cell).mp hlock)
  · intro p w hw
    obtain ⟨cell, g, hlock, horigin, hversion⟩ := h.work p w hw
    exact ⟨cell, g, (hlocked p cell).mpr hlock, horigin, hversion⟩
  · intro p w rest hstage hrest
    obtain ⟨cell, g, hlock, _, _⟩ := h.work p w ⟨Or.inr hstage, rest, hrest⟩
    obtain ⟨hmarked, hnone⟩ := h.erased p w rest hstage hrest
    refine ⟨?_, hnone⟩
    intro row hrow hparent
    exact hmarked row (hunder p cell hlock row hrow hparent) hparent
  · intro p cell hlock hw
    have hbefore : locked p = some (q, cell) := (hlocked p cell).mp hlock
    refine (h.settled p cell hbefore hw).frame ?_
    intro row hrow hparent
    exact Or.inl (hunder p cell hbefore row hrow hparent)
  · intro p w hended hlast
    obtain ⟨cell, hlock⟩ := h.held p w hended hlast
    exact ⟨cell, (hlocked p cell).mpr hlock⟩
  · intro row hrow hmark
    obtain ⟨cell, hlock⟩ := h.marks row (hchildren row hrow (Or.inl hmark)) hmark
    exact ⟨cell, (hlocked _ cell).mpr hlock⟩
  · intro hended row hrow
    obtain ⟨cell, hlock⟩ := h.adds hended row hrow
    exact ⟨cell, (hlocked _ cell).mpr hlock⟩
  · intro p w rest hstage hrest
    refine (h.saved p w rest hstage hrest).frame ?_ ?_
    · intro cell hlock
      exact ⟨cell, (hlocked p cell).mpr hlock⟩
    · intro mine hmine row hrow hparent
      exact Or.inl (hunder p mine hmine row hrow hparent)

/-- What a step of `r` that is not its commit leaves as it is. -/
structure Statement (r : Run) (s t : State Run Id Row Child) : Prop where
  committed : t.committed = s.committed
  commits : t.commits = s.commits
  session : ∀ q, q ≠ r → t.session q = s.session q
  locked : ∀ q, q ≠ r → ∀ o cell, t.locked o = some (q, cell) ↔ s.locked o = some (q, cell)
  children : ∀ q, q ≠ r → ∀ row ∈ t.children, row.erasedBy = some q ∨
    (∃ cell, s.locked row.parent = some (q, cell)) → row ∈ s.children
  kept : ∀ o, childrenOf o t.children = childrenOf o s.children

omit [DecidableEq Run] in
theorem Statement.inv (hst : Statement r s t) (h : Inv overwrite feed s)
    (hr : SessionInv overwrite (feed r) t.locked t.children r (t.session r)) :
    Inv overwrite feed t where
  sessions := by
    intro q
    obtain rfl | hq := eq_or_ne q r
    · exact hr
    · rw [hst.session q hq]
      exact (h.sessions q).frame (hst.locked q hq) (hst.children q hq)
  logged := by
    intro q stored hq
    rw [hst.commits] at hq
    exact h.logged q stored hq
  written := by
    intro o g horigin
    rw [hst.committed] at horigin
    have hw := h.written o g horigin
    refine ⟨?_, ?_, ?_⟩
    · rw [hst.committed]
      exact hw.row
    · rw [hst.kept o]
      exact hw.children
    · rw [hst.commits]
      exact hw.writer
  untouched := by
    intro o horigin entry hentry
    rw [hst.committed] at horigin
    rw [hst.commits] at hentry
    exact h.untouched o horigin entry hentry

/-- A statement that leaves the locks and the children alone. -/
theorem Statement.ofSession (s : State Run Id Row Child) (r : Run) (x : Session Run Id Row Child) :
    Statement r s (s.setSession r x) where
  committed := rfl
  commits := rfl
  session := fun _ hq => State.setSession_of_ne x hq
  locked := fun _ _ _ _ => Iff.rfl
  children := fun _ _ _ hrow _ => hrow
  kept := fun _ => rfl

theorem Statement.setSession (hst : Statement r s t) (x : Session Run Id Row Child) :
    Statement r s (t.setSession r x) where
  committed := hst.committed
  commits := hst.commits
  session := fun q hq => (State.setSession_of_ne x hq).trans (hst.session q hq)
  locked := hst.locked
  children := hst.children
  kept := hst.kept

omit [DecidableEq Run] in
/-- A row is locked that nobody else holds. -/
theorem Statement.lock (hst : Statement r s t) (hfree : ∀ q cell, s.locked o = some (q, cell) →
    q = r) (cell : Cell Run Row Child) : Statement r s (t.lock r o cell) where
  committed := hst.committed
  commits := hst.commits
  session := hst.session
  locked := by
    intro q hq p other
    by_cases hp : p = o
    · subst hp
      rw [State.lock_self]
      constructor
      · intro hlock
        exact absurd (Prod.ext_iff.mp (Option.some.inj hlock)).1.symm hq
      · intro hlock
        exact absurd (hfree q other hlock) hq
    · rw [State.lock_of_ne _ _ _ hp]
      exact hst.locked q hq p other
  children := hst.children
  kept := hst.kept

omit [DecidableEq Run] in
theorem childrenOf_map {children : List (ChildRow Run Id Child)}
    (f : ChildRow Run Id Child → ChildRow Run Id Child)
    (hf : ∀ row, (f row).parent = row.parent ∧ (f row).child = row.child) (o : Id) :
    childrenOf o (children.map f) = childrenOf o children := by
  induction children with
  | nil => rfl
  | cons row children ih =>
    unfold childrenOf at ih ⊢
    rw [List.map_cons, List.filter_cons, List.filter_cons, (hf row).1]
    split
    · rw [List.map_cons, List.map_cons, (hf row).2, ih]
    · exact ih

omit [DecidableEq Run] in
/-- The children of a row are marked that the transaction holds. -/
theorem Statement.mark (hst : Statement r s t) {cell : Cell Run Row Child}
    (hheld : s.locked o = some (r, cell)) : Statement r s (t.mark r o) where
  committed := hst.committed
  commits := hst.commits
  session := hst.session
  locked := hst.locked
  children := by
    intro q hq row hrow howned
    rcases State.mem_mark hrow with ⟨hparent, hmark⟩ | ⟨_, hold⟩
    · exfalso
      rcases howned with hother | ⟨other, hother⟩
      · rw [hmark] at hother
        exact hq (Option.some.inj hother).symm
      · rw [hparent, hheld] at hother
        exact hq (Prod.ext_iff.mp (Option.some.inj hother)).1.symm
    · exact hst.children q hq row hold howned
  kept := by
    intro p
    rw [← hst.kept p]
    refine childrenOf_map _ ?_ p
    intro row
    split
    · exact ⟨rfl, rfl⟩
    · exact ⟨rfl, rfl⟩

/-- What is undone is the transaction's own: its lock and its marks. -/
theorem statement_undo {cell : Cell Run Row Child} (hheld : s.locked o = some (r, cell)) :
    Statement r s (s.undo r o) where
  committed := rfl
  commits := rfl
  session := fun _ _ => rfl
  locked := by
    intro q hq p other
    change Function.update s.locked o _ p = _ ↔ _
    by_cases hp : p = o
    · subst hp
      rw [Function.update_self, hheld, Option.map_eq_some_iff]
      constructor
      · rintro ⟨before, _, hsame⟩
        exact absurd (Prod.ext_iff.mp hsame).1.symm hq
      · intro hsame
        exact absurd (Prod.ext_iff.mp (Option.some.inj hsame)).1.symm hq
    · rw [Function.update_of_ne hp]
  children := by
    intro q hq row hrow howned
    rcases hcell : (s.session r).savepoint.cell with _ | before
    · rcases State.mem_undo_of_free hcell hrow with ⟨hparent, hnone⟩ | ⟨hold, _⟩
      · exfalso
        rcases howned with hmark | ⟨other, hother⟩
        · rw [hnone] at hmark
          cases hmark
        · rw [hparent, hheld] at hother
          exact hq (Prod.ext_iff.mp (Option.some.inj hother)).1.symm
      · exact hold
    · exact State.mem_undo_of_held hcell hrow
  kept := by
    intro p
    refine childrenOf_map _ ?_ p
    intro row
    split
    · exact ⟨rfl, rfl⟩
    · exact ⟨rfl, rfl⟩

omit [DecidableEq Run] in
theorem Inv.live (h : Inv overwrite feed s) (hrest : (s.session r).rest = (o, v) :: rest) :
    (s.session r).ended = false := by
  by_contra hended
  have hnil := (h.sessions r).finished (by simpa using hended)
  rw [hrest] at hnil
  cases hnil

/-- The savepoint of an entry keeps what the entries before have left. -/
theorem inv_select (h : Inv overwrite feed s) (hrest : (s.session r).rest = (o, v) :: rest)
    (hstage : (s.session r).stage = .select) : Inv overwrite feed (s.select r o) := by
  have hx := h.sessions r
  have hidle : ∀ p w, ¬ AtWork (s.session r) p w := not_atWork (Or.inl hstage)
  refine (Statement.ofSession s r _).inv h ?_
  rw [State.setSession_self]
  refine ⟨hx.split, hx.finished, hx.locks, ?_, ?_, ?_, hx.held, hx.marks, hx.adds, ?_⟩
  · intro p w hw
    exact absurd hw (not_atWork (Or.inr rfl) p w)
  · intro p w rest hinsert
    cases hinsert
  · intro p cell hlock _
    exact hx.settled p cell hlock (hidle p)
  · intro p w more _ hmore
    obtain ⟨rfl, rfl⟩ : o = p ∧ v = w :=
      Prod.ext_iff.mp (List.cons.inj (hrest.symm.trans hmore)).1
    refine ⟨rfl, ?_, ?_⟩
    · intro hfree
      have hnone : ∀ cell, s.locked o ≠ some (r, cell) := by
        intro cell hlock
        cases hfree.symm.trans (State.held_eq_some_iff.mpr hlock)
      constructor
      · by_contra hlast
        obtain ⟨w, hw⟩ := Option.ne_none_iff_exists'.mp hlast
        obtain ⟨cell, hlock⟩ := hx.held o w (h.live hrest) hw
        exact hnone cell hlock
      · by_contra hnew
        obtain ⟨row, hrow, ho⟩ := exists_of_newChildren hnew
        obtain ⟨cell, hlock⟩ := hx.adds (h.live hrest) row hrow
        exact hnone cell (ho ▸ hlock)
    · intro cell hcell
      have hlock := State.held_eq_some_iff.mp hcell
      exact ⟨⟨cell, hlock⟩, hx.settled o cell hlock (hidle o)⟩

/-- From the UPDATE on, the transaction holds the row with what it wrote. -/
theorem inv_update (h : Inv overwrite feed s) (hrest : (s.session r).rest = (o, v) :: rest)
    (hstage : (s.session r).stage = .update) (hstep : s.update overwrite r o v = some t) :
    Inv overwrite feed t := by
  have hx := h.sessions r
  have hlive := h.live hrest
  obtain ⟨loaded, cell, hfound, rfl⟩ := State.update_eq_some hstep
  have hst : Statement r s (s.setSession r { s.session r with
      object := Function.update (s.session r).object o (some (v.assign loaded))
      stage := .delete }) := Statement.ofSession s r _
  refine (hst.lock (fun q other => State.found_free hfound) _).inv h ?_
  change SessionInv overwrite (feed r) (Function.update s.locked o _) s.children r
    ((s.setSession r _).session r)
  rw [State.setSession_self]
  have hkept : ∀ p, (∃ other, s.locked p = some (r, other)) →
      ∃ other, Function.update s.locked o
        (some (r, Cell.write overwrite r v loaded cell.row)) p = some (r, other) := by
    rintro p ⟨other, hlock⟩
    by_cases hp : p = o
    · subst hp
      exact ⟨_, Function.update_self _ _ _⟩
    · exact ⟨other, by rw [Function.update_of_ne hp]; exact hlock⟩
  refine ⟨hx.split, hx.finished, ?_, ?_, ?_, ?_, ?_, ?_, ?_, ?_⟩
  · intro p other hlock
    refine ⟨hlive, ?_⟩
    by_cases hp : p = o
    · subst hp
      rw [Function.update_self] at hlock
      obtain rfl : Cell.write overwrite r v loaded cell.row = other :=
        (Prod.ext_iff.mp (Option.some.inj hlock)).2
      exact ⟨_, rfl, rfl, rfl⟩
    · rw [Function.update_of_ne hp] at hlock
      exact (hx.locks p other hlock).2
  · rintro p w ⟨_, more, hmore⟩
    obtain ⟨rfl, rfl⟩ : o = p ∧ v = w :=
      Prod.ext_iff.mp (List.cons.inj (hrest.symm.trans hmore)).1
    exact ⟨_, _, Function.update_self _ _ _, rfl, rfl⟩
  · intro p w more hinsert
    cases hinsert
  · intro p other hlock hwork
    have hp : p ≠ o := by
      rintro rfl
      exact hwork v ⟨Or.inl rfl, rest, hrest⟩
    rw [Function.update_of_ne hp] at hlock
    exact hx.settled p other hlock (not_atWork (Or.inr hstage) p)
  · intro p w hended hlast
    exact hkept p (hx.held p w hended hlast)
  · intro row hrow hmark
    exact hkept row.parent (hx.marks row hrow hmark)
  · intro hended row hrow
    exact hkept row.1 (hx.adds hended row hrow)
  · intro p w more _ hmore
    have hsaved := hx.saved p w more (by rw [hstage]; decide) hmore
    have hframe := hsaved.frame (fun other hlock => hkept p ⟨other, hlock⟩)
      (fun _ _ row hrow _ => Or.inl hrow)
    exact ⟨hframe.others, hframe.free, hframe.held⟩

/-- The old children of `o` go, committed or new; the rest stay. -/
theorem inv_delete (h : Inv overwrite feed s) (hrest : (s.session r).rest = (o, v) :: rest)
    (hstage : (s.session r).stage = .delete) (hstep : s.delete r o = some t) :
    Inv overwrite feed t := by
  have hx := h.sessions r
  obtain ⟨cell, g, hheld, _, _⟩ := hx.work o v ⟨Or.inl hstage, rest, hrest⟩
  obtain rfl := State.delete_eq_some hstep
  have hst : Statement r s (s.setSession r { s.session r with
      added := (s.session r).added.filter (fun row => decide (row.1 ≠ o))
      stage := .insert }) := Statement.ofSession s r _
  refine (hst.mark hheld).inv h ?_
  have hmember : ∀ row ∈ (s.mark r o).children, _ := fun row => State.mem_mark
  -- a child that was there before is there still, or has the mark
  have hchildren : ∀ row ∈ (s.mark r o).children, row ∈ s.children ∨ row.erasedBy = some r := by
    intro row hrow
    rcases hmember row hrow with ⟨_, hmark⟩ | ⟨_, hold⟩
    · exact Or.inr hmark
    · exact Or.inl hold
  change SessionInv overwrite (feed r) s.locked (s.mark r o).children r
    ((s.setSession r _).session r)
  rw [State.setSession_self]
  refine ⟨hx.split, hx.finished, hx.locks, ?_, ?_, ?_, hx.held, ?_, ?_, ?_⟩
  · rintro p w ⟨_, hw⟩
    exact hx.work p w ⟨Or.inl hstage, hw⟩
  · intro p w more _ hmore
    obtain ⟨rfl, rfl⟩ : o = p ∧ v = w :=
      Prod.ext_iff.mp (List.cons.inj (hrest.symm.trans hmore)).1
    refine ⟨?_, newChildren_dropped o _⟩
    intro row hrow hparent
    rcases hmember row hrow with ⟨_, hmark⟩ | ⟨hother, _⟩
    · exact hmark
    · exact absurd hparent hother
  · intro p other hlock hwork
    have hp : p ≠ o := by
      rintro rfl
      exact hwork v ⟨Or.inr rfl, rest, hrest⟩
    have hbefore : ∀ w, ¬ AtWork (s.session r) p w := by
      rintro w ⟨_, more, hmore⟩
      exact hp (Prod.ext_iff.mp (List.cons.inj (hrest.symm.trans hmore)).1).1.symm
    have hsettled : Settled overwrite (s.mark r o).children r (s.session r).done
        (s.session r).added p other :=
      (hx.settled p other hlock hbefore).frame fun row hrow _ => hchildren row hrow
    obtain ⟨g', horigin, hrun, hresult, hlast, hnew⟩ := hsettled.origin
    exact ⟨⟨g', horigin, hrun, hresult, hlast, (newChildren_without hp _).trans hnew⟩,
      hsettled.marked⟩
  · intro row hrow hmark
    rcases hmember row hrow with ⟨hparent, _⟩ | ⟨_, hold⟩
    · exact ⟨cell, by rw [hparent]; exact hheld⟩
    · exact hx.marks row hold hmark
  · intro hended row hrow
    exact hx.adds hended row (List.mem_filter.mp hrow).1
  · intro p w more _ hmore
    obtain ⟨rfl, rfl⟩ : o = p ∧ v = w :=
      Prod.ext_iff.mp (List.cons.inj (hrest.symm.trans hmore)).1
    have hsaved := hx.saved o v rest (by rw [hstage]; decide) hrest
    have hframe : Saved overwrite s.locked (s.mark r o).children r (s.session r) o :=
      hsaved.frame (fun other hlock => ⟨other, hlock⟩) (fun _ _ row hrow _ => hchildren row hrow)
    refine ⟨?_, hframe.free, hframe.held⟩
    rw [List.filter_filter]
    simpa using hframe.others

/-- The entry is behind the transaction, and its children are the new ones. -/
theorem inv_insert (h : Inv overwrite feed s) (hrest : (s.session r).rest = (o, v) :: rest)
    (hstage : (s.session r).stage = .insert) : Inv overwrite feed (s.insert r o v rest) := by
  have hx := h.sessions r
  have hlive := h.live hrest
  obtain ⟨cell, g, hheld, horigin, hversion⟩ := hx.work o v ⟨Or.inr hstage, rest, hrest⟩
  obtain ⟨hmarked, hnone⟩ := hx.erased o v rest hstage hrest
  refine (Statement.ofSession s r _).inv h ?_
  rw [State.setSession_self]
  refine ⟨?_, ?_, hx.locks, ?_, ?_, ?_, ?_, hx.marks, ?_, ?_⟩
  · have hsplit := hx.split
    rw [hrest] at hsplit
    simpa using hsplit
  · intro hended
    rw [hlive] at hended
    cases hended
  · intro p w hw
    exact absurd hw (not_atWork (Or.inl rfl) p w)
  · intro p w more hinsert
    cases hinsert
  · intro p other hlock _
    by_cases hp : o = p
    · subst hp
      obtain rfl : cell = other :=
        (Prod.ext_iff.mp (Option.some.inj (hheld.symm.trans hlock))).2
      obtain ⟨_, g', horigin', hrun, hresult⟩ := hx.locks o cell hheld
      obtain rfl : g = g' := Option.some.inj (horigin.symm.trans horigin')
      refine ⟨⟨g, horigin, hrun, hresult, ?_, ?_⟩, hmarked⟩
      · rw [lastFor_concat, if_pos rfl, hversion]
      · rw [newChildren_append, hnone, hversion, newChildren_own]
        rfl
    · have hbefore : ∀ w, ¬ AtWork (s.session r) p w := by
        rintro w ⟨_, more, hmore⟩
        exact hp (Prod.ext_iff.mp (List.cons.inj (hrest.symm.trans hmore)).1).1
      have hsettled := hx.settled p other hlock hbefore
      obtain ⟨g', horigin', hrun, hresult, hlast, hnew⟩ := hsettled.origin
      refine ⟨⟨g', horigin', hrun, hresult, ?_, ?_⟩, hsettled.marked⟩
      · rw [lastFor_concat, if_neg hp]
        exact hlast
      · rw [newChildren_append, hnew, newChildren_other hp]
        exact List.append_nil _
  · intro p w hended hlast
    rw [lastFor_concat] at hlast
    by_cases hp : o = p
    · subst hp
      exact ⟨cell, hheld⟩
    · rw [if_neg hp] at hlast
      exact hx.held p w hended hlast
  · intro hended row hrow
    rcases List.mem_append.mp hrow with hold | hnew
    · exact hx.adds hended row hold
    · obtain ⟨child, _, rfl⟩ := List.mem_map.mp hnew
      exact ⟨cell, hheld⟩
  · intro p w more hselect
    exact absurd rfl hselect

omit [DecidableEq Run] [DecidableEq Id] in
theorem sublist_drop {x : Session Run Id Row Child} {entries : Feed Id Row Child}
    (h : (x.done ++ x.rest).Sublist entries) (hrest : x.rest = (o, v) :: rest) :
    (x.done ++ rest).Sublist entries := by
  rw [hrest] at h
  exact ((List.sublist_cons_self _ rest).append_left x.done).trans h

omit [DecidableEq Run] in
/-- An entry given up before its UPDATE leaves nothing to undo. -/
theorem SessionInv.skip {entries : Feed Id Row Child} {x : Session Run Id Row Child}
    {locked : Id → Option (Run × Cell Run Row Child)} {children : List (ChildRow Run Id Child)}
    (hx : SessionInv overwrite entries locked children r x) (hlive : x.ended = false)
    (hrest : x.rest = (o, v) :: rest) (hstage : x.stage = .select ∨ x.stage = .update)
    (object : Id → Option Row) : SessionInv overwrite entries locked children r
      { x with object := object, rest := rest, stage := .select } := by
  have hsplit := sublist_drop hx.split hrest
  refine ⟨hsplit, ?_, hx.locks, ?_, ?_, ?_, hx.held, hx.marks, hx.adds, ?_⟩
  · intro hended
    rw [hlive] at hended
    cases hended
  · intro p w hw
    exact absurd hw (not_atWork (Or.inl rfl) p w)
  · intro p w more hinsert
    cases hinsert
  · intro p cell hlock _
    exact hx.settled p cell hlock (not_atWork hstage p)
  · intro p w more hselect
    exact absurd rfl hselect

theorem State.undo_other {p : Id} (hp : p ≠ o) : (s.undo r o).locked p = s.locked p :=
  Function.update_of_ne hp _ _

/-- The lock is what the savepoint has of it. -/
theorem State.undo_locked_iff {cell : Cell Run Row Child} :
    (s.undo r o).locked o = some (r, cell) ↔ (s.session r).savepoint.cell = some cell := by
  have hself : (s.undo r o).locked o = (s.session r).savepoint.cell.map (Prod.mk r) :=
    Function.update_self _ _ _
  rw [hself, Option.map_eq_some_iff]
  constructor
  · rintro ⟨before, hbefore, hsame⟩
    exact hbefore.trans (congrArg some (Prod.ext_iff.mp hsame).2)
  · intro hcell
    exact ⟨cell, hcell, rfl⟩

section Undo
variable {entries : Feed Id Row Child}
  (hx : SessionInv overwrite entries s.locked s.children r (s.session r))
include hx

/-- A child that still has the mark is under a row that is still held. -/
theorem SessionInv.undo_marks {row : ChildRow Run Id Child} (hrow : row ∈ (s.undo r o).children)
    (hmark : row.erasedBy = some r) : ∃ cell, (s.undo r o).locked row.parent = some (r, cell) := by
  rcases hcell : (s.session r).savepoint.cell with _ | cell
  · rcases State.mem_undo_of_free hcell hrow with ⟨_, hnone⟩ | ⟨hold, hapart⟩
    · cases hnone.symm.trans hmark
    · rw [State.undo_other fun hparent => hapart ⟨hparent, hmark⟩]
      exact hx.marks row hold hmark
  · obtain ⟨mine, hmine⟩ := hx.marks row (State.mem_undo_of_held hcell hrow) hmark
    by_cases hp : row.parent = o
    · exact ⟨cell, by rw [hp]; exact State.undo_locked_iff.mpr hcell⟩
    · exact ⟨mine, by rw [State.undo_other hp]; exact hmine⟩

variable (hsaved : Saved overwrite s.locked s.children r (s.session r) o)
include hsaved

theorem SessionInv.undo_locks {p : Id} {cell : Cell Run Row Child}
    (hlock : (s.undo r o).locked p = some (r, cell)) :
    ∃ g, cell.origin = some g ∧ g.run = r ∧ cell.row = g.result overwrite := by
  by_cases hp : p = o
  · subst hp
    obtain ⟨_, hsettled⟩ := hsaved.held cell (State.undo_locked_iff.mp hlock)
    obtain ⟨g, horigin, hrun, hresult, _⟩ := hsettled.origin
    exact ⟨g, horigin, hrun, hresult⟩
  · rw [State.undo_other hp] at hlock
    exact (hx.locks p cell hlock).2

theorem SessionInv.undo_settled (hrest : (s.session r).rest = (o, v) :: rest) {p : Id}
    {cell : Cell Run Row Child} (hlock : (s.undo r o).locked p = some (r, cell)) :
    Settled overwrite (s.undo r o).children r (s.session r).done (s.session r).savepoint.added p
      cell := by
  by_cases hp : p = o
  · subst hp
    have hcell := State.undo_locked_iff.mp hlock
    refine (hsaved.held cell hcell).2.frame ?_
    intro row hrow _
    exact Or.inl (State.mem_undo_of_held hcell hrow)
  · rw [State.undo_other hp] at hlock
    have hidle : ∀ w, ¬ AtWork (s.session r) p w := by
      rintro w ⟨_, more, hmore⟩
      exact hp (Prod.ext_iff.mp (List.cons.inj (hrest.symm.trans hmore)).1).1.symm
    have hsettled := hx.settled p cell hlock hidle
    obtain ⟨g, horigin, hrun, hresult, hlast, hnew⟩ := hsettled.origin
    refine ⟨⟨g, horigin, hrun, hresult, hlast, ?_⟩, ?_⟩
    · rw [← hnew, ← newChildren_without hp, hsaved.others, newChildren_without hp]
    · intro row hrow hparent
      rcases hcell : (s.session r).savepoint.cell with _ | before
      · rcases State.mem_undo_of_free hcell hrow with ⟨ho, _⟩ | ⟨hold, _⟩
        · exact absurd (hparent.symm.trans ho) hp
        · exact hsettled.marked row hold hparent
      · exact hsettled.marked row (State.mem_undo_of_held hcell hrow) hparent

theorem SessionInv.undo_held (hlive : (s.session r).ended = false) {p : Id}
    {w : Version Row Child} (hlast : lastFor p (s.session r).done = some w) :
    ∃ cell, (s.undo r o).locked p = some (r, cell) := by
  by_cases hp : p = o
  · subst hp
    rcases hcell : (s.session r).savepoint.cell with _ | cell
    · cases hlast.symm.trans (hsaved.free hcell).1
    · exact ⟨cell, State.undo_locked_iff.mpr hcell⟩
  · rw [State.undo_other hp]
    exact hx.held p w hlive hlast

theorem SessionInv.undo_adds (hlive : (s.session r).ended = false) {row : Id × Child}
    (hrow : row ∈ (s.session r).savepoint.added) :
    ∃ cell, (s.undo r o).locked row.1 = some (r, cell) := by
  by_cases hp : row.1 = o
  · rcases hcell : (s.session r).savepoint.cell with _ | cell
    · exact absurd (hsaved.free hcell).2 (mem_newChildren hrow hp)
    · exact ⟨cell, by rw [hp]; exact State.undo_locked_iff.mpr hcell⟩
  · have hkept : row ∈ (s.session r).savepoint.added.filter (fun row => decide (row.1 ≠ o)) :=
      List.mem_filter.mpr ⟨hrow, decide_eq_true hp⟩
    rw [hsaved.others] at hkept
    rw [State.undo_other hp]
    exact hx.adds hlive row (List.mem_filter.mp hkept).1

end Undo

/-- After the UPDATE, the row and the children of `o` are as the entries before left them. -/
theorem SessionInv.undo {entries : Feed Id Row Child}
    (hx : SessionInv overwrite entries s.locked s.children r (s.session r))
    (hlive : (s.session r).ended = false) (hrest : (s.session r).rest = (o, v) :: rest)
    (hstage : (s.session r).stage ≠ .select) (object : Id → Option Row) :
    SessionInv overwrite entries (s.undo r o).locked (s.undo r o).children r
      { s.session r with
        object := object
        added := (s.session r).savepoint.added
        rest := rest
        stage := .select } := by
  have hsaved := hx.saved o v rest hstage hrest
  have hsplit := sublist_drop hx.split hrest
  refine ⟨hsplit, ?_, ?_, ?_, ?_, ?_, ?_, ?_, ?_, ?_⟩
  · intro hended
    rw [hlive] at hended
    cases hended
  · exact fun p cell hlock => ⟨hlive, hx.undo_locks hsaved hlock⟩
  · intro p w hw
    exact absurd hw (not_atWork (Or.inl rfl) p w)
  · intro p w more hinsert
    cases hinsert
  · exact fun p cell hlock _ => hx.undo_settled hsaved hrest hlock
  · exact fun p w _ hlast => hx.undo_held hsaved hlive hlast
  · exact fun row hrow hmark => hx.undo_marks hrow hmark
  · exact fun _ row hrow => hx.undo_adds hsaved hlive hrow
  · intro p w more hselect
    exact absurd rfl hselect

/-- An entry that is given up is undone and left behind, and the others stay. -/
theorem inv_giveUp (h : Inv overwrite feed s) (hrest : (s.session r).rest = (o, v) :: rest) :
    Inv overwrite feed (s.giveUp r o rest) := by
  have hx := h.sessions r
  have hlive := h.live hrest
  have hundone : (s.session r).stage = .delete ∨ (s.session r).stage = .insert →
      Inv overwrite feed ((s.undo r o).setSession r { s.session r with
        object := Function.update (s.session r).object o none
        added := (s.session r).savepoint.added
        rest := rest
        stage := .select }) := by
    intro hstage
    obtain ⟨cell, _, hheld, _⟩ := hx.work o v ⟨hstage, rest, hrest⟩
    refine ((statement_undo hheld).setSession _).inv h ?_
    rw [State.setSession_self]
    refine hx.undo hlive hrest ?_ _
    rcases hstage with hstage | hstage <;> rw [hstage] <;> decide
  unfold State.giveUp
  dsimp only
  rcases hstage : (s.session r).stage with _ | _ | _ | _
  · refine (Statement.ofSession s r _).inv h ?_
    rw [State.setSession_self]
    exact hx.skip hlive hrest (Or.inl hstage) (s.session r).object
  · refine (Statement.ofSession s r _).inv h ?_
    rw [State.setSession_self]
    exact hx.skip hlive hrest (Or.inr hstage) _
  · exact hundone (Or.inl hstage)
  · exact hundone (Or.inr hstage)

/-- Which objects a session has is not looked at. -/
theorem inv_forget (h : Inv overwrite feed s) : Inv overwrite feed (s.forget r o) := by
  have hx := h.sessions r
  refine (Statement.ofSession s r _).inv h ?_
  rw [State.setSession_self]
  refine ⟨hx.split, hx.finished, hx.locks, hx.work, hx.erased, hx.settled, hx.held, hx.marks,
    hx.adds, ?_⟩
  intro p w more hstage hmore
  have hsaved := hx.saved p w more hstage hmore
  exact ⟨hsaved.others, hsaved.free, hsaved.held⟩

omit [DecidableEq Run] in
/-- A transaction that has ended holds nothing and has marked nothing. -/
theorem SessionInv.ended {entries : Feed Id Row Child} {x : Session Run Id Row Child}
    {locked : Id → Option (Run × Cell Run Row Child)} {children : List (ChildRow Run Id Child)}
    (hsplit : (x.done ++ x.rest).Sublist entries) (hrest : x.rest = []) (hended : x.ended = true)
    (hlocked : ∀ p cell, locked p ≠ some (r, cell))
    (hchildren : ∀ row ∈ children, row.erasedBy ≠ some r) :
    SessionInv overwrite entries locked children r x := by
  have hnone : ∀ o v rest, x.rest ≠ (o, v) :: rest := by
    intro o v rest hmore
    cases hrest.symm.trans hmore
  refine ⟨hsplit, fun _ => hrest, ?_, ?_, ?_, ?_, ?_, ?_, ?_, ?_⟩
  · intro p cell hlock
    exact absurd hlock (hlocked p cell)
  · rintro p w ⟨_, more, hmore⟩
    exact absurd hmore (hnone p w more)
  · intro p w more _ hmore
    exact absurd hmore (hnone p w more)
  · intro p cell hlock
    exact absurd hlock (hlocked p cell)
  · intro p w hlive
    rw [hended] at hlive
    cases hlive
  · intro row hrow hmark
    exact absurd hmark (hchildren row hrow)
  · intro hlive
    rw [hended] at hlive
    cases hlive
  · intro p w more _ hmore
    exact absurd hmore (hnone p w more)

omit [DecidableEq Id] in
theorem release_other {s : State Run Id Row Child} (hq : q ≠ r) {p : Id}
    {cell : Cell Run Row Child} :
    s.release r p = some (q, cell) ↔ s.locked p = some (q, cell) := by
  rw [State.release_eq_some_iff]
  exact and_iff_left hq

omit [DecidableEq Id] in
theorem release_self {s : State Run Id Row Child} {p : Id} {cell : Cell Run Row Child} :
    s.release r p ≠ some (r, cell) :=
  fun h => (State.release_eq_some_iff.mp h).2 rfl

/-- The locks and the marks of an aborted transaction go, and nothing is written. -/
theorem inv_abort (h : Inv overwrite feed s) : Inv overwrite feed (s.abort r) := by
  have hx := h.sessions r
  have hchildren : ∀ row ∈ (s.abort r).children, row ∈ s.children ∧ row.erasedBy ≠ some r ∨
      row.erasedBy = none ∧ ∃ before ∈ s.children, before.erasedBy = some r ∧
        row = { before with erasedBy := none } := by
    intro row hrow
    obtain ⟨before, hbefore, rfl⟩ := List.mem_map.mp hrow
    split
    · next hmark => exact Or.inr ⟨rfl, before, hbefore, hmark, rfl⟩
    · next hmark => exact Or.inl ⟨hbefore, hmark⟩
  have hst : Statement r s (s.abort r) := {
    committed := rfl
    commits := rfl
    session := fun q hq => State.setSession_of_ne _ hq
    locked := fun q hq p cell => release_other hq
    children := by
      intro q hq row hrow howned
      rcases hchildren row hrow with ⟨hold, _⟩ | ⟨hnone, before, hbefore, hmark, rfl⟩
      · exact hold
      · -- the child was under a row that `r` held
        exfalso
        obtain ⟨mine, hmine⟩ := hx.marks before hbefore hmark
        rcases howned with hother | ⟨other, hother⟩
        · cases hnone.symm.trans hother
        · have hboth := Option.some.inj (hother.symm.trans hmine)
          exact hq (Prod.ext_iff.mp hboth).1
    kept := by
      intro p
      refine childrenOf_map _ ?_ p
      intro row
      split
      · exact ⟨rfl, rfl⟩
      · exact ⟨rfl, rfl⟩ }
  refine hst.inv h ?_
  have hself : (s.abort r).session r = _ := State.setSession_self s r _
  rw [hself]
  refine SessionInv.ended ?_ rfl rfl (fun p cell => release_self) ?_
  · exact ((List.nil_sublist _).append_left _).trans hx.split
  · intro row hrow
    rcases hchildren row hrow with ⟨_, hmark⟩ | ⟨hnone, _⟩
    · exact hmark
    · rw [hnone]
      exact (Option.some_ne_none r).symm

omit [DecidableEq Id] in
theorem State.mem_children_commit {row : ChildRow Run Id Child} :
    row ∈ (s.commit r).children ↔ (row ∈ s.children ∧ row.erasedBy ≠ some r) ∨
      ∃ added ∈ (s.session r).added, row = ⟨added.1, added.2, none⟩ := by
  change row ∈ (s.children.filter fun row => decide (row.erasedBy ≠ some r)) ++
    (s.session r).added.map (fun row => ⟨row.1, row.2, none⟩) ↔ _
  rw [List.mem_append, List.mem_filter, List.mem_map, decide_eq_true_iff]
  simp only [eq_comm]

/-- The rows that nobody holds are without marks. -/
theorem childrenOf_commit (h : Inv overwrite feed s) (hfree : ∀ cell, s.locked o ≠ some (r, cell))
    (hlive : (s.session r).ended = false) :
    childrenOf o (s.commit r).children = childrenOf o s.children := by
  have hx := h.sessions r
  have hold : (s.children.filter fun row => decide (row.erasedBy ≠ some r)).filter
      (fun row => decide (row.parent = o)) =
        s.children.filter fun row => decide (row.parent = o) := by
    rw [List.filter_filter]
    refine List.filter_congr ?_
    intro row hrow
    by_cases hparent : row.parent = o
    · have hmark : row.erasedBy ≠ some r := by
        intro hmark
        obtain ⟨cell, hlock⟩ := hx.marks row hrow hmark
        exact hfree cell (hparent ▸ hlock)
      simp [hparent, hmark]
    · simp [hparent]
  have hnew : ((s.session r).added.map fun row =>
      (⟨row.1, row.2, none⟩ : ChildRow Run Id Child)).filter
        (fun row => decide (row.parent = o)) = [] := by
    refine List.filter_eq_nil_iff.mpr ?_
    intro row hrow
    obtain ⟨added, hadded, rfl⟩ := List.mem_map.mp hrow
    intro hparent
    obtain ⟨cell, hlock⟩ := hx.adds hlive added hadded
    exact hfree cell (of_decide_eq_true hparent ▸ hlock)
  unfold childrenOf State.commit
  rw [List.filter_append, hold, hnew, List.append_nil]

/-- The children of a row that `r` holds are replaced by its new ones. -/
theorem childrenOf_commit_held
    (hmarked : ∀ row ∈ s.children, row.parent = o → row.erasedBy = some r) :
    childrenOf o (s.commit r).children = newChildren o (s.session r).added := by
  have hold : (s.children.filter fun row => decide (row.erasedBy ≠ some r)).filter
      (fun row => decide (row.parent = o)) = [] := by
    rw [List.filter_filter, List.filter_eq_nil_iff]
    intro row hrow hboth
    have hparent : row.parent = o := by
      simp at hboth
      exact hboth.1
    have hmark := hmarked row hrow hparent
    simp [hmark] at hboth
  unfold childrenOf newChildren State.commit
  rw [List.filter_append, hold, List.nil_append, List.filter_map, List.map_map]
  rfl

omit [DecidableEq Run] in
theorem LastWriter.concat {commits : List (Run × Feed Id Row Child)} {stored : Feed Id Row Child}
    (h : LastWriter commits o q v) (hr : lastFor o stored = none) :
    LastWriter (commits ++ [(r, stored)]) o q v := by
  obtain ⟨before, mine, after, rfl, hlast, hafter⟩ := h
  refine ⟨before, mine, after ++ [(r, stored)], by simp, hlast, ?_⟩
  intro later hlater
  rcases List.mem_append.mp hlater with hold | hnew
  · exact hafter later hold
  · rw [List.mem_singleton.mp hnew]
    exact hr

omit [DecidableEq Run] in
theorem LastWriter.self (commits : List (Run × Feed Id Row Child)) {stored : Feed Id Row Child}
    (hlast : lastFor o stored = some v) : LastWriter (commits ++ [(r, stored)]) o r v := by
  refine ⟨commits, stored, [], rfl, hlast, ?_⟩
  intro later hlater
  cases hlater

omit [DecidableEq Id] in
theorem State.commit_held {cell : Cell Run Row Child} (hlock : s.locked o = some (r, cell)) :
    (s.commit r).committed o = cell := by
  change (s.held r o).getD (s.committed o) = cell
  rw [State.held_eq_some_iff.mpr hlock, Option.getD_some]

omit [DecidableEq Id] in
theorem State.commit_free (hfree : ∀ cell, s.locked o ≠ some (r, cell)) :
    (s.commit r).committed o = s.committed o := by
  have hnone : s.held r o = none := by
    by_contra hheld
    obtain ⟨cell, hcell⟩ := Option.ne_none_iff_exists'.mp hheld
    exact hfree cell (State.held_eq_some_iff.mp hcell)
  change (s.held r o).getD (s.committed o) = s.committed o
  rw [hnone, Option.getD_none]

/-- What `r` inserts is under rows that it holds, so the others do not see its commit. -/
theorem SessionInv.commit_other {entries : Feed Id Row Child} (h : Inv overwrite feed s)
    (hlive : (s.session r).ended = false) (hq : q ≠ r)
    (hx : SessionInv overwrite entries s.locked s.children q (s.session q)) :
    SessionInv overwrite entries (s.commit r).locked (s.commit r).children q (s.session q) := by
  refine hx.frame (fun p cell => release_other hq) ?_
  intro row hrow howned
  rcases State.mem_children_commit.mp hrow with ⟨hold, _⟩ | ⟨added, hadded, rfl⟩
  · exact hold
  · exfalso
    obtain ⟨cell, hlock⟩ := (h.sessions r).adds hlive added hadded
    rcases howned with hmark | ⟨mine, hmine⟩
    · cases hmark
    · have hboth := Option.some.inj (hmine.symm.trans hlock)
      exact hq (Prod.ext_iff.mp hboth).1

/-- The transaction has an entry stored for each row that it holds, and for no other. -/
theorem Inv.written_commit (h : Inv overwrite feed s) (hrest : (s.session r).rest = [])
    {cell : Cell Run Row Child} {g : Origin Run Row Child}
    (hlock : s.locked o = some (r, cell)) (horigin : cell.origin = some g) :
    Written overwrite (s.commit r) o g := by
  have hidle : ∀ w, ¬ AtWork (s.session r) o w := by
    rintro w ⟨_, more, hmore⟩
    cases hrest.symm.trans hmore
  have hsettled := (h.sessions r).settled o cell hlock hidle
  obtain ⟨g', horigin', hrun, hresult, hlast, hnew⟩ := hsettled.origin
  obtain rfl : g = g' := Option.some.inj (horigin.symm.trans horigin')
  refine ⟨?_, ?_, ?_⟩
  · rw [State.commit_held hlock]
    exact hresult
  · rw [childrenOf_commit_held hsettled.marked]
    exact hnew
  · rw [hrun]
    exact LastWriter.self s.commits hlast

theorem inv_commit (h : Inv overwrite feed s) (hrest : (s.session r).rest = [])
    (hlive : (s.session r).ended = false) : Inv overwrite feed (s.commit r) := by
  have hx := h.sessions r
  have hfree : ∀ p, (∀ cell, s.locked p ≠ some (r, cell)) →
      lastFor p (s.session r).done = none := by
    intro p hp
    by_contra hlast
    obtain ⟨w, hw⟩ := Option.ne_none_iff_exists'.mp hlast
    obtain ⟨cell, hlock⟩ := hx.held p w hlive hw
    exact hp cell hlock
  refine ⟨?_, ?_, ?_, ?_⟩
  · intro q
    obtain rfl | hq := eq_or_ne q r
    · have hself : (s.commit q).session q = { s.session q with ended := true } :=
        State.setSession_self s q _
      rw [hself]
      refine SessionInv.ended hx.split hrest rfl (fun p cell => release_self) ?_
      intro row hrow hmark
      rcases State.mem_children_commit.mp hrow with ⟨_, hold⟩ | ⟨added, _, rfl⟩
      · exact hold hmark
      · cases hmark
    · have hother : (s.commit r).session q = s.session q := State.setSession_of_ne _ hq
      rw [hother]
      exact (h.sessions q).commit_other h hlive hq
  · intro q stored hq
    rcases List.mem_append.mp hq with hold | hnew
    · exact h.logged q stored hold
    · have hsplit := hx.split
      rw [hrest, List.append_nil] at hsplit
      obtain ⟨hrun, hdone⟩ := Prod.ext_iff.mp (List.mem_singleton.mp hnew)
      change q = r at hrun
      change stored = (s.session r).done at hdone
      rw [hrun, hdone]
      exact hsplit
  · intro p g horigin
    by_cases hp : ∃ cell, s.locked p = some (r, cell)
    · obtain ⟨cell, hlock⟩ := hp
      rw [State.commit_held hlock] at horigin
      exact h.written_commit hrest hlock horigin
    · have hnone : ∀ cell, s.locked p ≠ some (r, cell) := fun cell hlock => hp ⟨cell, hlock⟩
      rw [State.commit_free hnone] at horigin
      have hw := h.written p g horigin
      refine ⟨?_, ?_, hw.writer.concat (hfree p hnone)⟩
      · rw [State.commit_free hnone]
        exact hw.row
      · rw [childrenOf_commit h hnone hlive]
        exact hw.children
  · intro p horigin entry hentry
    by_cases hp : ∃ cell, s.locked p = some (r, cell)
    · obtain ⟨cell, hlock⟩ := hp
      obtain ⟨_, g, hg, _⟩ := hx.locks p cell hlock
      rw [State.commit_held hlock, hg] at horigin
      cases horigin
    · have hnone : ∀ cell, s.locked p ≠ some (r, cell) := fun cell hlock => hp ⟨cell, hlock⟩
      rw [State.commit_free hnone] at horigin
      rcases List.mem_append.mp hentry with hold | hnew
      · exact h.untouched p horigin entry hold
      · rw [List.mem_singleton.mp hnew]
        exact hfree p hnone

theorem inv_advance (h : Inv overwrite feed s) (hstep : advance overwrite s r = some t) :
    Inv overwrite feed t := by
  rcases advance_cases hstep with ⟨hrest, hlive, rfl⟩ | ⟨o, v, rest, hrest, hcases⟩
  · exact inv_commit h hrest hlive
  · rcases hcases with ⟨hstage, rfl⟩ | ⟨hstage, hupdate⟩ | ⟨hstage, hdelete⟩ | ⟨hstage, rfl⟩
    · exact inv_select h hrest hstage
    · exact inv_update h hrest hstage hupdate
    · exact inv_delete h hrest hstage hdelete
    · exact inv_insert h hrest hstage

theorem inv_step {a : Action Run Id} (h : Inv overwrite feed s)
    (hstep : step overwrite s a = some t) : Inv overwrite feed t := by
  cases a with
  | next r => exact inv_advance h hstep
  | fail r =>
    simp only [step] at hstep
    split at hstep
    · cases hstep
    · next o v rest hrest =>
      obtain rfl := Option.some.inj hstep
      exact inv_giveUp h hrest
  | abort r =>
    simp only [step] at hstep
    split at hstep
    · cases hstep
    · obtain rfl := Option.some.inj hstep
      exact inv_abort h
  | forget r o =>
    simp only [step] at hstep
    split at hstep
    · obtain rfl := Option.some.inj hstep
      exact inv_forget h
    · cases hstep

theorem inv_exec {rows : Id → Row} {children : List (Id × Child)} {schedule : List (Action Run Id)}
    (h : Schedule.exec (step overwrite) (start rows children feed) schedule = some s) :
    Inv overwrite feed s :=
  Schedule.exec_invariant (fun _ _ _ hs hstep => inv_step hs hstep) h
    (inv_start overwrite rows children feed)

/-- A row for which some committed transaction has stored an entry was written last by
one of those, and its children are the ones of that transaction's last entry. -/
theorem exec_written {rows : Id → Row} {children : List (Id × Child)}
    {schedule : List (Action Run Id)} {stored : Feed Id Row Child}
    (h : Schedule.exec (step overwrite) (start rows children feed) schedule = some s)
    (hr : (r, stored) ∈ s.commits) (ho : lastFor o stored ≠ none) :
    ∃ g, (s.committed o).origin = some g ∧ Written overwrite s o g := by
  have hinv := inv_exec h
  rcases horigin : (s.committed o).origin with _ | g
  · exact absurd (hinv.untouched o horigin (r, stored) hr) ho
  · exact ⟨g, rfl, hinv.written o g horigin⟩

/-- Nothing of the feed of `r` has been given up. -/
structure Whole (entries : Feed Id Row Child) (r : Run) (s : State Run Id Row Child) : Prop where
  ahead : (s.session r).ended = false → (s.session r).done ++ (s.session r).rest = entries
  logged : ∀ stored, (r, stored) ∈ s.commits → stored = entries

omit [DecidableEq Run] [DecidableEq Id] in
theorem Whole.of_session {entries : Feed Id Row Child} (h : Whole entries r s)
    (hsession : t.session r = s.session r)
    (hcommits : ∀ stored, (r, stored) ∈ t.commits → (r, stored) ∈ s.commits) :
    Whole entries r t where
  ahead := by
    rw [hsession]
    exact h.ahead
  logged := fun stored hstored => h.logged stored (hcommits stored hstored)

omit [DecidableEq Id] in
theorem Whole.setSession {entries : Feed Id Row Child} (h : Whole entries r s)
    {x : Session Run Id Row Child} (hended : x.ended = false → (s.session r).ended = false)
    (hdone : x.done ++ x.rest = (s.session r).done ++ (s.session r).rest) :
    Whole entries r (s.setSession r x) where
  ahead := by
    rw [State.setSession_self, hdone]
    exact fun hlive => h.ahead (hended hlive)
  logged := h.logged

theorem Whole.advance {entries : Feed Id Row Child} (h : Whole entries r s)
    (hstep : advance overwrite s r = some t) : Whole entries r t := by
  rcases advance_cases hstep with ⟨hrest, hlive, rfl⟩ | ⟨o, v, rest, hrest, hcases⟩
  · have hdone := h.ahead hlive
    rw [hrest, List.append_nil] at hdone
    constructor
    · have hself : (s.commit r).session r = { s.session r with ended := true } :=
        State.setSession_self s r _
      rw [hself]
      intro hlive
      cases hlive
    · intro stored hstored
      rcases List.mem_append.mp hstored with hold | hnew
      · exact h.logged stored hold
      · obtain ⟨_, rfl⟩ := Prod.ext_iff.mp (List.mem_singleton.mp hnew)
        exact hdone
  · rcases hcases with ⟨_, rfl⟩ | ⟨_, hupdate⟩ | ⟨_, hdelete⟩ | ⟨_, rfl⟩
    · exact h.setSession id rfl
    · obtain ⟨loaded, cell, _, rfl⟩ := State.update_eq_some hupdate
      have hset := h.setSession (x := { s.session r with
        object := Function.update (s.session r).object o (some (v.assign loaded))
        stage := .delete }) id rfl
      exact ⟨hset.ahead, hset.logged⟩
    · obtain rfl := State.delete_eq_some hdelete
      have hset := h.setSession (x := { s.session r with
        added := (s.session r).added.filter (fun row => decide (row.1 ≠ o))
        stage := .insert }) id rfl
      exact ⟨hset.ahead, hset.logged⟩
    · refine h.setSession id ?_
      rw [hrest]
      exact List.append_assoc _ _ _

theorem Whole.step {entries : Feed Id Row Child} {a : Action Run Id} (h : Whole entries r s)
    (hkept : a ≠ .fail r) (hstep : step overwrite s a = some t) : Whole entries r t := by
  cases a with
  | next q =>
    obtain rfl | hq := eq_or_ne q r
    · exact h.advance hstep
    · rcases advance_cases hstep with ⟨_, _, rfl⟩ | ⟨o, v, rest, _, hcases⟩
      · refine h.of_session (State.setSession_of_ne _ hq.symm) ?_
        intro stored hstored
        rcases List.mem_append.mp hstored with hold | hnew
        · exact hold
        · exact absurd (Prod.ext_iff.mp (List.mem_singleton.mp hnew)).1.symm hq
      · rcases hcases with ⟨_, rfl⟩ | ⟨_, hupdate⟩ | ⟨_, hdelete⟩ | ⟨_, rfl⟩
        · exact h.of_session (State.setSession_of_ne _ hq.symm) fun _ => id
        · obtain ⟨loaded, cell, _, rfl⟩ := State.update_eq_some hupdate
          exact h.of_session (State.setSession_of_ne _ hq.symm) fun _ => id
        · obtain rfl := State.delete_eq_some hdelete
          exact h.of_session (State.setSession_of_ne _ hq.symm) fun _ => id
        · exact h.of_session (State.setSession_of_ne _ hq.symm) fun _ => id
  | fail q =>
    have hq : q ≠ r := fun hsame => hkept (congrArg Action.fail hsame)
    simp only [ReadCommitted.step] at hstep
    split at hstep
    · cases hstep
    · next o v rest _ =>
      obtain rfl := Option.some.inj hstep
      have hsame : (s.giveUp q o rest).session r = s.session r ∧
          (s.giveUp q o rest).commits = s.commits := by
        unfold State.giveUp
        dsimp only
        split <;> exact ⟨State.setSession_of_ne _ hq.symm, rfl⟩
      exact h.of_session hsame.1 fun stored => hsame.2 ▸ id
  | abort q =>
    simp only [ReadCommitted.step] at hstep
    split at hstep
    · cases hstep
    · obtain rfl := Option.some.inj hstep
      obtain rfl | hq := eq_or_ne q r
      · refine ⟨?_, h.logged⟩
        have hself : (s.abort q).session q = _ := State.setSession_self s q _
        rw [hself]
        intro hlive
        cases hlive
      · exact h.of_session (State.setSession_of_ne _ hq.symm) fun _ => id
  | forget q o =>
    simp only [ReadCommitted.step] at hstep
    split at hstep
    · obtain rfl := Option.some.inj hstep
      obtain rfl | hq := eq_or_ne q r
      · exact h.setSession id rfl
      · exact h.of_session (State.setSession_of_ne _ hq.symm) fun _ => id
    · cases hstep

/-- What a transaction has stored when it commits is of its feed, and all of it where no
entry was given up. -/
theorem exec_stored {rows : Id → Row} {children : List (Id × Child)}
    {schedule : List (Action Run Id)} {stored : Feed Id Row Child}
    (h : Schedule.exec (step overwrite) (start rows children feed) schedule = some s)
    (hr : (r, stored) ∈ s.commits) :
    stored.Sublist (feed r) ∧ (Action.fail r ∉ schedule → stored = feed r) := by
  refine ⟨(inv_exec h).logged r stored hr, fun hkept => ?_⟩
  have hwhole : Action.fail r ∉ schedule → Whole (feed r) r s := by
    refine Schedule.exec_history (P := fun done t => Action.fail r ∉ done → Whole (feed r) r t)
      ?_ ?_ h
    · intro _
      exact ⟨fun _ => rfl, fun stored hnone => absurd hnone List.not_mem_nil⟩
    · intro done t a u _ ih hstep hnone
      rw [List.mem_append, List.mem_singleton, not_or] at hnone
      exact (ih hnone.1).step (Ne.symm hnone.2) hstep
  exact (hwhole hkept).logged stored hr

end Statements

end ReadCommitted
