import CrmPortal.Portal

/-!
# The login throttle under concurrent requests

The requests of one client address at one process. Between the check of the
record and the outcome of the credentials a request waits for the database, and
others run. The outcome is recorded in the list object that the request got at
its check; a success takes the list out of the dict, and whoever still holds it
goes on writing to it.
-/

namespace LoginThrottle

open Accounts Portal Schedule

/-- A request that passed the check: the list object it holds, and whether its
password was right and its session row is being written. -/
structure InFlight where
  id : Nat
  record : Nat
  verified : Bool

/-- What the credentials of a request turned out to be. -/
inductive Event where
  | failed (time : ℚ)
  | succeeded (time : ℚ)
  deriving DecidableEq

def Event.time : Event → ℚ
  | .failed t => t
  | .succeeded t => t

/-- The list objects by number, the one in the dict, the requests between check and
outcome, and the outcomes so far, the last one first. -/
structure Throttle where
  lists : Nat → List ℚ
  allocated : Nat
  current : Option Nat
  inFlight : List InFlight
  history : List Event
  now : ℚ

def start (now : ℚ) : Throttle := ⟨fun _ => [], 0, none, [], [], now⟩

inductive Action where
  | check (id : Nat) (time : ℚ)
  | fail (id : Nat) (time : ℚ)
  | verify (id : Nat) (time : ℚ)
  | clear (id : Nat) (time : ℚ) (committed : Bool)
  | abort (id : Nat) (time : ℚ)

def Action.time : Action → ℚ
  | .check _ t => t
  | .fail _ t => t
  | .verify _ t => t
  | .clear _ t _ => t
  | .abort _ t => t

namespace Throttle

/-- `_login_attempts.setdefault(client_ip, [])`: the object that is in the dict then. -/
def record (s : Throttle) : Nat := s.current.getD s.allocated

def request (s : Throttle) (id : Nat) : Option InFlight :=
  s.inFlight.find? fun e => decide (e.id = id)

def without (s : Throttle) (id : Nat) : List InFlight :=
  s.inFlight.filter fun e => decide (e.id ≠ id)

/-- The record is pruned in place, and decides whether the request goes on. -/
def check (server : Server) (s : Throttle) (id : Nat) (time : ℚ) : Throttle :=
  let attempts := pruneAttempts time (s.lists s.record)
  { s with
    lists := Function.update s.lists s.record attempts
    allocated := max s.allocated (s.record + 1)
    current := some s.record
    inFlight := if limited server attempts then s.inFlight else ⟨id, s.record, false⟩ :: s.inFlight
    now := time }

/-- There is no await between the password check and `attempts.append(time.time())`. -/
def fail (s : Throttle) (e : InFlight) (time : ℚ) : Throttle :=
  { s with
    lists := Function.update s.lists e.record (s.lists e.record ++ [time])
    inFlight := s.without e.id
    history := .failed time :: s.history
    now := time }

def verify (s : Throttle) (e : InFlight) (time : ℚ) : Throttle :=
  { s with inFlight := { e with verified := true } :: s.without e.id, now := time }

/-- `_login_attempts.pop(client_ip, None)`, before the block is committed. -/
def clear (s : Throttle) (e : InFlight) (time : ℚ) (committed : Bool) : Throttle :=
  { s with
    current := none
    inFlight := s.without e.id
    history := if committed then .succeeded time :: s.history else s.history
    now := time }

/-- An exception of the database ends the request. -/
def abort (s : Throttle) (e : InFlight) (time : ℚ) : Throttle :=
  { s with inFlight := s.without e.id, now := time }

end Throttle

def perform (server : Server) (s : Throttle) : Action → Option Throttle
  | .check id t => if (s.request id).isNone then some (s.check server id t) else none
  | .fail id t => (s.request id).bind fun e => if e.verified then none else some (s.fail e t)
  | .verify id t => (s.request id).bind fun e => if e.verified then none else some (s.verify e t)
  | .clear id t committed =>
    (s.request id).bind fun e => if e.verified then some (s.clear e t committed) else none
  | .abort id t => (s.request id).map fun e => s.abort e t

/-- The clock does not go back. -/
def step (server : Server) (s : Throttle) (a : Action) : Option Throttle :=
  if s.now ≤ a.time then perform server s a else none

def Event.failedIn (a b : ℚ) : Event → Bool
  | .failed t => decide (a ≤ t) && decide (t ≤ b)
  | .succeeded _ => false

def failuresIn (a b : ℚ) (history : List Event) : Nat := history.countP (Event.failedIn a b)

/-- In every window of 300 seconds without a success the failures are within the limit. -/
def WindowBound (limit : Int) (history : List Event) : Prop :=
  ∀ a, (∀ t, .succeeded t ∈ history → ¬ (a ≤ t ∧ t ≤ a + loginWindowSeconds)) →
    (failuresIn a (a + loginWindowSeconds) history : Int) ≤ limit

/-- The condition on a step: a request is let in only while the recorded failures and
the requests in flight stay below the limit, and the record is cleared by a login
that is committed while no other request holds it. -/
def Orderly (server : Server) (s : Throttle) : Action → Prop
  | .check _ t =>
    let attempts := pruneAttempts t (s.lists s.record)
    limited server attempts = false →
      ((attempts.length + s.inFlight.length : Nat) : Int) < server.maxLoginAttempts
  | .clear id _ committed => committed = true ∧ ∀ e ∈ s.inFlight, e.id = id
  | _ => True

instance (server : Server) (s : Throttle) (a : Action) : Decidable (Orderly server s a) :=
  match a with
  | .check _ _ => inferInstanceAs (Decidable (_ → _))
  | .clear _ _ _ => inferInstanceAs (Decidable (_ ∧ _))
  | .fail _ _ => isTrue trivial
  | .verify _ _ => isTrue trivial
  | .abort _ _ => isTrue trivial

/-- The failures since the last success. -/
def sinceSuccess : List Event → List ℚ
  | [] => []
  | .failed t :: rest => t :: sinceSuccess rest
  | .succeeded _ :: _ => []

def countFrom (lo : ℚ) (times : List ℚ) : Nat := times.countP fun t => decide (lo ≤ t)

theorem countFrom_cons (lo t : ℚ) (times : List ℚ) :
    countFrom lo (t :: times) = countFrom lo times + if lo ≤ t then 1 else 0 := by
  unfold countFrom
  rw [List.countP_cons]
  simp

theorem countFrom_append (lo t : ℚ) (times : List ℚ) :
    countFrom lo (times ++ [t]) = countFrom lo times + if lo ≤ t then 1 else 0 := by
  unfold countFrom
  rw [List.countP_append, List.countP_singleton]
  simp

theorem countFrom_le_length (lo : ℚ) (times : List ℚ) : countFrom lo times ≤ times.length :=
  List.countP_le_length

/-- Pruning drops nothing that can still count. -/
theorem countFrom_prune {now lo : ℚ} (h : now - loginWindowSeconds ≤ lo) (times : List ℚ) :
    countFrom lo (pruneAttempts now times) = countFrom lo times := by
  unfold countFrom pruneAttempts
  rw [List.countP_filter]
  apply List.countP_congr
  intro t _
  simp only [Bool.and_eq_true, decide_eq_true_eq, and_iff_left_iff_imp]
  intro ht
  linarith

/-- The last event first. -/
def Sorted (history : List Event) : Prop := history.Pairwise fun e f => f.time ≤ e.time

theorem failuresIn_zero {a b : ℚ} {history : List Event} (h : ∀ e ∈ history, e.time < a) :
    failuresIn a b history = 0 := by
  apply List.countP_eq_zero.mpr
  intro e he hfailed
  have hlt := h e he
  cases e with
  | succeeded t => cases hfailed
  | failed t =>
    have hle : a ≤ t := of_decide_eq_true (Bool.and_eq_true_iff.mp hfailed).1
    have hlt' : t < a := hlt
    linarith

/-- Up to the present, a window without a success counts failures since the last one. -/
theorem failuresIn_le_since {a b : ℚ} {history : List Event} (sorted : Sorted history)
    (past : ∀ e ∈ history, e.time ≤ b)
    (clean : ∀ t, .succeeded t ∈ history → ¬ (a ≤ t ∧ t ≤ b)) :
    failuresIn a b history ≤ countFrom a (sinceSuccess history) := by
  induction history with
  | nil => exact Nat.le_refl _
  | cons e rest ih =>
    obtain ⟨hfirst, hrest⟩ := List.pairwise_cons.mp sorted
    have ihrest := ih hrest (fun f hf => past f (List.mem_cons_of_mem e hf))
      (fun t ht => clean t (List.mem_cons_of_mem e ht))
    cases e with
    | failed t =>
      rw [sinceSuccess, countFrom_cons]
      unfold failuresIn at ihrest ⊢
      rw [List.countP_cons]
      have hone : (if Event.failedIn a b (.failed t) = true then 1 else 0) ≤
          (if a ≤ t then 1 else 0) := by
        by_cases ht : a ≤ t <;> simp [Event.failedIn, ht]
        split <;> omega
      omega
    | succeeded t =>
      have ht : t ≤ b := past (.succeeded t) List.mem_cons_self
      have hbefore : t < a := by
        by_contra hle
        exact clean t List.mem_cons_self ⟨le_of_not_gt hle, ht⟩
      have hzero : failuresIn a b (.succeeded t :: rest) = 0 := by
        apply failuresIn_zero
        intro f hf
        rcases List.mem_cons.mp hf with rfl | hf
        · exact hbefore
        · exact lt_of_le_of_lt (hfirst f hf) hbefore
      omega

theorem failuresIn_cons_of_not {a b : ℚ} {e : Event} (h : Event.failedIn a b e = false)
    (history : List Event) : failuresIn a b (e :: history) = failuresIn a b history :=
  List.countP_cons_of_neg (by simp [h])

theorem WindowBound.succeeded {limit : Int} {history : List Event}
    (bound : WindowBound limit history) (time : ℚ) :
    WindowBound limit (.succeeded time :: history) := by
  intro a hclean
  rw [failuresIn_cons_of_not rfl]
  exact bound a fun u hu => hclean u (List.mem_cons_of_mem _ hu)

/-- A failure now counts in the windows that reach up to the present, and there only
failures since the last success count. -/
theorem WindowBound.failed {limit : Int} {history : List Event} {time : ℚ}
    (bound : WindowBound limit history) (sorted : Sorted (.failed time :: history))
    (past : ∀ e ∈ Event.failed time :: history, e.time ≤ time)
    (room : ∀ lo, time - loginWindowSeconds ≤ lo →
      (countFrom lo (sinceSuccess (.failed time :: history)) : Int) ≤ limit) :
    WindowBound limit (.failed time :: history) := by
  intro a hclean
  by_cases hin : a ≤ time ∧ time ≤ a + loginWindowSeconds
  · have hle := failuresIn_le_since sorted (fun e he => le_trans (past e he) hin.2) hclean
    have hcount := room a (by linarith [hin.2])
    omega
  · have hno : Event.failedIn a (a + loginWindowSeconds) (.failed time) = false := by
      simpa [Event.failedIn] using hin
    rw [failuresIn_cons_of_not hno]
    exact bound a fun u hu => hclean u (List.mem_cons_of_mem _ hu)

section Invariant
variable {server : Server} {s t : Throttle}

/-- The failures since the last success are in the record where they count, and
with the requests in flight they stay within the limit. -/
structure Inv (server : Server) (s : Throttle) : Prop where
  untouched : ∀ k, s.allocated ≤ k → s.lists k = []
  held : ∀ e ∈ s.inFlight, s.current = some e.record
  issued : ∀ k, s.current = some k → k < s.allocated
  past : ∀ e ∈ s.history, e.time ≤ s.now
  sorted : Sorted s.history
  recorded : ∀ lo, s.now - loginWindowSeconds ≤ lo →
    countFrom lo (s.lists s.record) = countFrom lo (sinceSuccess s.history)
  room : ∀ lo, s.now - loginWindowSeconds ≤ lo →
    ((countFrom lo (sinceSuccess s.history) + s.inFlight.length : Nat) : Int) ≤
      server.maxLoginAttempts
  bound : WindowBound server.maxLoginAttempts s.history

theorem request_mem {id : Nat} {e : InFlight} (h : s.request id = some e) :
    e ∈ s.inFlight ∧ e.id = id := by
  unfold Throttle.request at h
  have hid := List.find?_some h
  exact ⟨List.mem_of_find?_eq_some h, of_decide_eq_true hid⟩

theorem without_sub {id : Nat} {e : InFlight} (h : e ∈ s.without id) : e ∈ s.inFlight :=
  (List.mem_filter.mp h).1

/-- The request that leaves makes room. -/
theorem without_length {e : InFlight} (h : e ∈ s.inFlight) :
    (s.without e.id).length + 1 ≤ s.inFlight.length := by
  have hlt : (s.without e.id).length < s.inFlight.length :=
    List.length_filter_lt_length_iff_exists.mpr ⟨e, h, by simp⟩
  exact hlt

theorem record_of_held (inv : Inv server s) {e : InFlight} (h : e ∈ s.inFlight) :
    s.record = e.record := by
  unfold Throttle.record
  rw [inv.held e h]
  rfl

theorem start_inv (limit : 0 ≤ server.maxLoginAttempts) (now : ℚ) : Inv server (start now) where
  untouched := fun _ _ => rfl
  held := by intro e he; cases he
  issued := by intro k hk; cases hk
  past := by intro e he; cases he
  sorted := List.Pairwise.nil
  recorded := fun _ _ => rfl
  room := fun _ _ => limit
  bound := fun _ _ => limit

/-- A new event is the last one. -/
theorem Inv.past_cons (inv : Inv server s) {e : Event} (htime : s.now ≤ e.time) :
    ∀ f ∈ e :: s.history, f.time ≤ e.time := by
  intro f hf
  rcases List.mem_cons.mp hf with rfl | hold
  · exact le_refl f.time
  · exact le_trans (inv.past f hold) htime

theorem Inv.sorted_cons (inv : Inv server s) {e : Event} (htime : s.now ≤ e.time) :
    Sorted (e :: s.history) :=
  List.pairwise_cons.mpr ⟨fun f hf => le_trans (inv.past f hf) htime, inv.sorted⟩

/-- Lists that nobody has yet stay empty when one that somebody has is written. -/
theorem Inv.untouched_update (inv : Inv server s) {k j : Nat} (times : List ℚ)
    (hk : s.allocated ≤ k) (hj : k ≠ j) : Function.update s.lists j times k = [] := by
  rw [Function.update_of_ne hj]
  exact inv.untouched k hk

theorem check_inv (inv : Inv server s) {id : Nat} {time : ℚ} (htime : s.now ≤ time)
    (orderly : Orderly server s (.check id time)) : Inv server (s.check server id time) := by
  have hpruned : ∀ lo, time - loginWindowSeconds ≤ lo →
      countFrom lo (pruneAttempts time (s.lists s.record)) =
        countFrom lo (sinceSuccess s.history) := by
    intro lo hlo
    rw [countFrom_prune hlo]
    exact inv.recorded lo (by linarith)
  have hrecord : (s.check server id time).record = s.record := rfl
  have hlists : (s.check server id time).lists s.record =
      pruneAttempts time (s.lists s.record) := by
    simp [Throttle.check]
  refine
    { untouched := ?_
      held := ?_
      issued := ?_
      past := fun e he => le_trans (inv.past e he) htime
      sorted := inv.sorted
      recorded := ?_
      room := ?_
      bound := inv.bound }
  · intro k hk
    have hboth : s.allocated ≤ k ∧ s.record + 1 ≤ k := max_le_iff.mp hk
    have hne : k ≠ s.record := by omega
    exact inv.untouched_update _ hboth.1 hne
  · intro e he
    have hcases : e = ⟨id, s.record, false⟩ ∨ e ∈ s.inFlight := by
      unfold Throttle.check at he
      dsimp only at he
      split at he
      · exact Or.inr he
      · exact List.mem_cons.mp he
    rcases hcases with rfl | hold
    · rfl
    · exact congrArg some (record_of_held inv hold)
  · intro k hk
    obtain rfl : s.record = k := Option.some.inj hk
    exact lt_of_lt_of_le (Nat.lt_succ_self s.record) (Nat.le_max_right _ _)
  · intro lo hlo
    rw [hrecord, hlists]
    exact hpruned lo hlo
  · intro lo hlo
    have hlo' : time - loginWindowSeconds ≤ lo := hlo
    have hold := inv.room lo (by linarith)
    cases hlimited : limited server (pruneAttempts time (s.lists s.record)) with
    | true =>
      have hflight : (s.check server id time).inFlight = s.inFlight := by
        simp [Throttle.check, hlimited]
      rw [hflight]
      exact hold
    | false =>
      have hflight : (s.check server id time).inFlight.length = s.inFlight.length + 1 := by
        simp [Throttle.check, hlimited]
      have hroom := orderly hlimited
      have hcount := countFrom_le_length lo (pruneAttempts time (s.lists s.record))
      rw [hpruned lo hlo'] at hcount
      rw [hflight]
      change ((countFrom lo (sinceSuccess s.history) + (s.inFlight.length + 1) : Nat) : Int) ≤ _
      omega

theorem fail_inv (inv : Inv server s) {e : InFlight} (he : e ∈ s.inFlight) {time : ℚ}
    (htime : s.now ≤ time) : Inv server (s.fail e time) := by
  have hlength := without_length he
  have hrecord : (s.fail e time).record = s.record := rfl
  have hheld : s.record = e.record := record_of_held inv he
  have hlists : (s.fail e time).lists s.record = s.lists s.record ++ [time] := by
    simp [Throttle.fail, hheld]
  have hroom : ∀ lo, time - loginWindowSeconds ≤ lo →
      ((countFrom lo (sinceSuccess (s.fail e time).history) + (s.without e.id).length : Nat) :
        Int) ≤ server.maxLoginAttempts := by
    intro lo hlo
    have hold := inv.room lo (by linarith)
    have hcons : countFrom lo (sinceSuccess (s.fail e time).history) =
        countFrom lo (sinceSuccess s.history) + if lo ≤ time then 1 else 0 :=
      countFrom_cons lo time _
    rw [hcons]
    split <;> omega
  have hsorted : Sorted (s.fail e time).history := inv.sorted_cons htime
  have hpast : ∀ f ∈ (s.fail e time).history, f.time ≤ time := inv.past_cons htime
  refine
    { untouched := ?_
      held := fun f hf => inv.held f (without_sub hf)
      issued := inv.issued
      past := hpast
      sorted := hsorted
      recorded := ?_
      room := hroom
      bound := ?_ }
  · intro k hk
    have hissued := inv.issued e.record (inv.held e he)
    have hk' : s.allocated ≤ k := hk
    have hne : k ≠ e.record := by omega
    exact inv.untouched_update _ hk' hne
  · intro lo hlo
    have hlo' : time - loginWindowSeconds ≤ lo := hlo
    have hcons : countFrom lo (sinceSuccess (s.fail e time).history) =
        countFrom lo (sinceSuccess s.history) + if lo ≤ time then 1 else 0 :=
      countFrom_cons lo time _
    rw [hrecord, hlists, countFrom_append, hcons, inv.recorded lo (by linarith)]
  · refine inv.bound.failed hsorted hpast ?_
    intro lo hlo
    have hcount := hroom lo hlo
    change (countFrom lo (sinceSuccess (s.fail e time).history) : Int) ≤ _
    omega

/-- A request that goes on, or leaves without an outcome. -/
theorem inFlight_inv (inv : Inv server s) {time : ℚ} (htime : s.now ≤ time)
    {inFlight : List InFlight} (held : ∀ e ∈ inFlight, s.current = some e.record)
    (fewer : inFlight.length ≤ s.inFlight.length) :
    Inv server { s with inFlight := inFlight, now := time } :=
  { untouched := inv.untouched
    held := held
    issued := inv.issued
    past := fun e he => le_trans (inv.past e he) htime
    sorted := inv.sorted
    recorded := fun lo hlo => inv.recorded lo (by
      have hlo' : time - loginWindowSeconds ≤ lo := hlo
      linarith)
    room := by
      intro lo hlo
      have hlo' : time - loginWindowSeconds ≤ lo := hlo
      have hold := inv.room lo (by linarith)
      have hfewer : ({ s with inFlight := inFlight, now := time } : Throttle).inFlight.length ≤
          s.inFlight.length := fewer
      have hhistory :
          ({ s with inFlight := inFlight, now := time } : Throttle).history = s.history :=
        rfl
      rw [hhistory]
      omega
    bound := inv.bound }

theorem clear_inv (inv : Inv server s) {e : InFlight} {time : ℚ}
    (htime : s.now ≤ time) (alone : ∀ f ∈ s.inFlight, f.id = e.id) :
    Inv server (s.clear e time true) := by
  have hempty : (s.without e.id) = [] := by
    apply List.filter_eq_nil_iff.mpr
    intro f hf
    simp [alone f hf]
  have hlimit : 0 ≤ server.maxLoginAttempts := by
    have hroom := inv.room s.now (by unfold loginWindowSeconds; linarith)
    omega
  refine
    { untouched := inv.untouched
      held := ?_
      issued := by intro k hk; cases hk
      past := inv.past_cons htime
      sorted := inv.sorted_cons htime
      recorded := ?_
      room := ?_
      bound := inv.bound.succeeded time }
  · intro f hf
    have hf' : f ∈ s.without e.id := hf
    rw [hempty] at hf'
    cases hf'
  · intro lo hlo
    have hlist : (s.clear e time true).lists (s.clear e time true).record = [] :=
      inv.untouched s.allocated (Nat.le_refl _)
    rw [hlist]
    rfl
  · intro lo hlo
    have hflight : (s.clear e time true).inFlight = [] := hempty
    rw [hflight]
    exact hlimit

theorem step_inv (inv : Inv server s) {a : Action} (orderly : Orderly server s a)
    (hstep : step server s a = some t) : Inv server t := by
  unfold step at hstep
  split at hstep
  · rename_i htime
    cases a with
    | check id time =>
      unfold perform at hstep
      dsimp only at hstep
      split at hstep
      · obtain rfl := Option.some.inj hstep
        exact check_inv inv htime orderly
      · cases hstep
    | fail id time =>
      obtain ⟨e, hrequest, hperform⟩ := Option.bind_eq_some_iff.mp hstep
      split at hperform
      · cases hperform
      · obtain rfl := Option.some.inj hperform
        exact fail_inv inv (request_mem hrequest).1 htime
    | verify id time =>
      obtain ⟨e, hrequest, hperform⟩ := Option.bind_eq_some_iff.mp hstep
      have he := (request_mem hrequest).1
      split at hperform
      · cases hperform
      · obtain rfl := Option.some.inj hperform
        refine inFlight_inv inv htime ?_ (without_length he)
        intro f hf
        rcases List.mem_cons.mp hf with rfl | hf
        · exact inv.held e he
        · exact inv.held f (without_sub hf)
    | clear id time committed =>
      obtain ⟨e, hrequest, hperform⟩ := Option.bind_eq_some_iff.mp hstep
      obtain ⟨-, rfl⟩ := request_mem hrequest
      split at hperform
      · obtain rfl := Option.some.inj hperform
        obtain ⟨rfl, alone⟩ := orderly
        exact clear_inv inv htime alone
      · cases hperform
    | abort id time =>
      obtain ⟨e, hrequest, rfl⟩ := Option.map_eq_some_iff.mp hstep
      have hlength := without_length (request_mem hrequest).1
      exact inFlight_inv inv htime (fun f hf => inv.held f (without_sub hf)) (by omega)
  · cases hstep

end Invariant

/-- Where every request that is let in finds the recorded failures and the requests
in flight below the limit, and the record is cleared only by a committed login that
nobody overlaps, no window without a success has more failures than the limit. -/
theorem window_bound (server : Server) (limit : 0 ≤ server.maxLoginAttempts) (now : ℚ)
    (schedule : List Action) (s : Throttle)
    (run : exec (step server) (start now) schedule = some s)
    (orderly : Along (Orderly server) (step server) (start now) schedule) :
    WindowBound server.maxLoginAttempts s.history :=
  (exec_invariant_along (P := Inv server)
    (fun _ _ _ inv horderly hstep => step_inv inv horderly hstep)
    run orderly (start_inv limit now)).bound

/-- One request after the other: a failure, a success, and a failure. -/
def inTurn : List Action :=
  [.check 0 1, .fail 0 2, .check 1 3, .verify 1 4, .clear 1 5 true, .check 2 6, .fail 2 7]

theorem window_bound_inTurn :
    ∃ s, exec (step asciiServer) (start 0) inTurn = some s ∧ WindowBound 5 s.history := by
  obtain ⟨s, hrun, -⟩ := (Option.any_eq_true (fun _ : Throttle => true)
    (exec (step asciiServer) (start 0) inTurn)).mp (by decide +kernel)
  exact ⟨s, hrun, window_bound asciiServer (by decide) 0 inTurn s hrun (by decide +kernel)⟩

/-- Six requests pass the check before the first of them fails. -/
def burst : List Action :=
  [.check 0 1, .check 1 1, .check 2 1, .check 3 1, .check 4 1, .check 5 1,
    .fail 0 2, .fail 1 2, .fail 2 2, .fail 3 2, .fail 4 2, .fail 5 2]

/-- A limit of five lets six passwords be tried. -/
theorem burst_exceeds_limit :
    ∃ s, exec (step asciiServer) (start 0) burst = some s ∧
      ¬ WindowBound asciiServer.maxLoginAttempts s.history := by
  obtain ⟨s, hrun, hhistory⟩ := (Option.any_eq_true
    (fun s : Throttle => decide (s.history = List.replicate 6 (.failed 2)))
    (exec (step asciiServer) (start 0) burst)).mp (by decide +kernel)
  refine ⟨s, hrun, ?_⟩
  rw [of_decide_eq_true hhistory]
  intro hbound
  have hcount := hbound 0 (by
    intro t ht
    cases List.eq_of_mem_replicate ht)
  exact absurd hcount (by decide +kernel)

end LoginThrottle
