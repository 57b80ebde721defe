import Mathlib.Data.List.Nodup
import Mathlib.Data.List.Perm.Subperm
import CrmPortal.Library.Schedule

/-!
# Admission to the auth executor

The semaphore of the session gate counts the requests that wait for a lookup; the
executor holds the lookups. A request that times out gives its permit back, while
its lookup goes on running, or stays in the queue until a worker takes it off.
-/

namespace AuthAdmission

open Schedule

/-- A work item; a cancelled one is dropped by the worker that takes it off. -/
structure Item where
  id : Nat
  cancelled : Bool
  deriving DecidableEq

/-- The free permits, the requests that hold one, and what the executor holds: its
queue and the lookups that its threads run. -/
structure State where
  permits : Nat
  waiting : List Nat
  queue : List Item
  running : List Nat
  next : Nat

/-- `asyncio.Semaphore(cfg.auth_executor_max_workers * 2)`. -/
def start (maxWorkers : Nat) : State := ⟨maxWorkers * 2, [], [], [], 0⟩

inductive Action where
  | enter
  | startLookup
  | finishLookup (id : Nat)
  | resume (id : Nat)
  | timeOut (id : Nat)

namespace State

/-- The lookups that the executor holds, running or queued. -/
def held (s : State) : List Nat := s.running ++ s.queue.map Item.id

/-- A permit is taken and the lookup is submitted. -/
def enter (s : State) : State :=
  { s with
    permits := s.permits - 1
    waiting := s.next :: s.waiting
    queue := s.queue ++ [⟨s.next, false⟩]
    next := s.next + 1 }

/-- `finally: _auth_inflight.release()`. -/
def release (s : State) (id : Nat) : State :=
  { s with permits := s.permits + 1, waiting := s.waiting.erase id }

/-- `future.cancel()`: nothing happens to a lookup that a thread already runs. -/
def cancel (s : State) (id : Nat) : State :=
  { s with
    queue := s.queue.map fun item =>
      if item.id = id then { item with cancelled := true } else item }

end State

def step (maxWorkers : Nat) (s : State) : Action → Option State
  | .enter => if 0 < s.permits then some s.enter else none
  | .startLookup =>
    match s.queue with
    | [] => none
    | item :: rest =>
      if s.running.length < maxWorkers then
        some { s with
          queue := rest
          running := if item.cancelled then s.running else item.id :: s.running }
      else none
  | .finishLookup id =>
    if id ∈ s.running then some { s with running := s.running.erase id } else none
  | .resume id => if id ∈ s.waiting ∧ id ∉ s.held then some (s.release id) else none
  | .timeOut id => if id ∈ s.waiting ∧ id ∈ s.held then some ((s.cancel id).release id) else none

/-- The lookups in the executor whose request is gone. -/
def State.abandoned (s : State) : List Nat := s.held.filter fun id => decide (id ∉ s.waiting)

/-- The condition on a step: a request is admitted only while more permits are free
than the executor holds lookups of requests that timed out. -/
def Covered (s : State) : Action → Prop
  | .enter => s.abandoned.length < s.permits
  | _ => True

instance (s : State) (a : Action) : Decidable (Covered s a) :=
  match a with
  | .enter => inferInstanceAs (Decidable (_ < _))
  | .startLookup => isTrue trivial
  | .finishLookup _ => isTrue trivial
  | .resume _ => isTrue trivial
  | .timeOut _ => isTrue trivial

structure Inv (maxWorkers : Nat) (s : State) : Prop where
  permits : s.permits + s.waiting.length = 2 * maxWorkers
  distinct : s.held.Nodup
  issued : ∀ id ∈ s.held, id < s.next
  bound : s.held.length ≤ 2 * maxWorkers

section Steps
variable {maxWorkers : Nat} {s t : State}

theorem start_inv (maxWorkers : Nat) : Inv maxWorkers (start maxWorkers) where
  permits := Nat.mul_comm maxWorkers 2
  distinct := List.nodup_nil
  issued := by intro id hid; cases hid
  bound := Nat.zero_le _

/-- A lookup is abandoned, or counts for a request that waits. -/
theorem held_le (distinct : s.held.Nodup) :
    s.held.length ≤ s.abandoned.length + s.waiting.length := by
  have hsplit := List.length_eq_length_filter_add (l := s.held) fun id => decide (id ∉ s.waiting)
  have hsub : (s.held.filter fun id => !decide (id ∉ s.waiting)) ⊆ s.waiting := by
    intro id hid
    simpa using (List.mem_filter.mp hid).2
  have hle := (List.subperm_of_subset
    (distinct.filter fun id => !decide (id ∉ s.waiting)) hsub).length_le
  unfold State.abandoned
  omega

theorem enter_inv (inv : Inv maxWorkers s) (permit : 0 < s.permits)
    (covered : Covered s .enter) : Inv maxWorkers s.enter := by
  have hheld : s.enter.held = s.held ++ [s.next] := by
    simp [State.enter, State.held]
  have hle := held_le inv.distinct
  have hcovered : s.abandoned.length < s.permits := covered
  have hpermits := inv.permits
  refine ⟨?_, ?_, ?_, ?_⟩
  · change s.permits - 1 + (s.waiting.length + 1) = 2 * maxWorkers
    omega
  · rw [hheld]
    refine List.Nodup.append inv.distinct (List.nodup_singleton _) ?_
    intro id hid hnew
    have hlt := inv.issued id hid
    have heq : id = s.next := List.mem_singleton.mp hnew
    omega
  · intro id hid
    rw [hheld] at hid
    change id < s.next + 1
    rcases List.mem_append.mp hid with old | new
    · have hlt := inv.issued id old
      omega
    · have heq : id = s.next := List.mem_singleton.mp new
      omega
  · rw [hheld, List.length_append, List.length_singleton]
    omega

/-- The executor lets go of lookups, and nothing else changes. -/
theorem inv_of_sublist (inv : Inv maxWorkers s) (permits : t.permits = s.permits)
    (waiting : t.waiting = s.waiting) (next : t.next = s.next)
    (fewer : List.Subperm t.held s.held) (distinct : t.held.Nodup) : Inv maxWorkers t where
  permits := by rw [permits, waiting]; exact inv.permits
  distinct := distinct
  issued := fun id hid => next ▸ inv.issued id (fewer.subset hid)
  bound := Nat.le_trans fewer.length_le inv.bound

theorem cancel_held (id : Nat) : (s.cancel id).held = s.held := by
  have hids : (s.cancel id).queue.map Item.id = s.queue.map Item.id := by
    unfold State.cancel
    rw [List.map_map]
    apply List.map_congr_left
    intro item _
    by_cases h : item.id = id <;> simp [h]
  unfold State.held
  rw [hids]
  rfl

theorem release_inv (inv : Inv maxWorkers s) {id : Nat} (hid : id ∈ s.waiting) :
    Inv maxWorkers (s.release id) where
  permits := by
    have hlength := List.length_erase_of_mem hid
    have hpos := List.length_pos_of_mem hid
    have hpermits := inv.permits
    change s.permits + 1 + (s.waiting.erase id).length = 2 * maxWorkers
    omega
  distinct := inv.distinct
  issued := inv.issued
  bound := inv.bound

theorem startLookup_inv (inv : Inv maxWorkers s) (h : step maxWorkers s .startLookup = some t) :
    Inv maxWorkers t := by
  unfold step at h
  dsimp only at h
  split at h
  · cases h
  · rename_i item rest hqueue
    split at h
    · obtain rfl := Option.some.inj h
      have hheld : s.held = s.running ++ item.id :: rest.map Item.id := by
        unfold State.held
        rw [hqueue, List.map_cons]
      have hperm : List.Perm s.held (item.id :: s.running ++ rest.map Item.id) := by
        rw [hheld]
        exact List.perm_middle
      by_cases hcancelled : item.cancelled = true
      · have hsub : List.Sublist (s.running ++ rest.map Item.id) s.held := by
          rw [hheld]
          exact List.Sublist.append_left (List.sublist_cons_self _ _) _
        refine inv_of_sublist inv rfl rfl rfl ?_ ?_
        · simpa [State.held, hcancelled] using hsub.subperm
        · simpa [State.held, hcancelled] using hsub.nodup inv.distinct
      · refine inv_of_sublist inv rfl rfl rfl ?_ ?_
        · simpa [State.held, hcancelled] using hperm.symm.subperm
        · simpa [State.held, hcancelled] using hperm.nodup_iff.mp inv.distinct
    · cases h

theorem step_inv (inv : Inv maxWorkers s) {a : Action} (covered : Covered s a)
    (h : step maxWorkers s a = some t) : Inv maxWorkers t := by
  cases a with
  | enter =>
    unfold step at h
    dsimp only at h
    split at h
    · rename_i permit
      obtain rfl := Option.some.inj h
      exact enter_inv inv permit covered
    · cases h
  | startLookup => exact startLookup_inv inv h
  | finishLookup id =>
    unfold step at h
    dsimp only at h
    split at h
    · obtain rfl := Option.some.inj h
      have hsub : List.Sublist (s.running.erase id ++ s.queue.map Item.id) s.held :=
        List.Sublist.append_right List.erase_sublist _
      exact inv_of_sublist inv rfl rfl rfl hsub.subperm (hsub.nodup inv.distinct)
    · cases h
  | resume id =>
    unfold step at h
    dsimp only at h
    split at h
    · rename_i hid
      obtain rfl := Option.some.inj h
      exact release_inv inv hid.1
    · cases h
  | timeOut id =>
    unfold step at h
    dsimp only at h
    split at h
    · rename_i hid
      obtain rfl := Option.some.inj h
      have hcancel : Inv maxWorkers (s.cancel id) := by
        refine inv_of_sublist inv rfl rfl rfl ?_ ?_
        · rw [cancel_held]
        · rw [cancel_held]
          exact inv.distinct
      exact release_inv hcancel hid.1
    · cases h

end Steps

/-- Where requests are admitted only while the free permits outnumber the abandoned
lookups, the executor never holds more than two lookups for a worker. -/
theorem held_bound (maxWorkers : Nat) (schedule : List Action) (s : State)
    (run : exec (step maxWorkers) (start maxWorkers) schedule = some s)
    (covered : Along Covered (step maxWorkers) (start maxWorkers) schedule) :
    s.held.length ≤ 2 * maxWorkers :=
  (exec_invariant_along (P := Inv maxWorkers)
    (fun _ _ _ inv hcovered hstep => step_inv inv hcovered hstep)
    run covered (start_inv maxWorkers)).bound

/-- A lookup times out while it runs, and nobody is admitted in its place before it ends. -/
def patient : List Action :=
  [.enter, .startLookup, .enter, .timeOut 0, .finishLookup 0, .startLookup, .finishLookup 1,
    .resume 1, .enter]

theorem held_bound_patient :
    ∃ s, exec (step 1) (start 1) patient = some s ∧ s.held.length ≤ 2 * 1 := by
  obtain ⟨s, hrun, -⟩ := (Option.any_eq_true (fun _ : State => true)
    (exec (step 1) (start 1) patient)).mp (by decide)
  exact ⟨s, hrun, held_bound 1 patient s hrun (by decide)⟩

/-- The one worker hangs; both requests time out, and two more are admitted. -/
def stall : List Action :=
  [.enter, .startLookup, .enter, .timeOut 0, .timeOut 1, .enter, .enter]

theorem stall_exceeds_bound :
    ∃ s, exec (step 1) (start 1) stall = some s ∧ ¬ s.held.length ≤ 2 * 1 := by
  obtain ⟨s, hrun, hheld⟩ := (Option.any_eq_true (fun s : State => decide (s.held = [0, 1, 2, 3]))
    (exec (step 1) (start 1) stall)).mp (by decide)
  refine ⟨s, hrun, ?_⟩
  rw [of_decide_eq_true hheld]
  decide

end AuthAdmission
