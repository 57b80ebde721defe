import Mathlib.Data.List.Induction

/-!
# Append-only trails

A trail is only added to at its end. Its rows are about keys; some of them count,
and some of those open their key. What is said of a trail is said of the rows
that count: which is the last of its key, and that a key is opened before
anything else about it counts.
-/

namespace AuditTrail

universe u v

variable {Row : Type u} {Key : Type v} (key : Row → Key) (Counts Opens : Row → Prop)

/-- The row is the last one of its key that counts. -/
def Latest (trail : List Row) (row : Row) : Prop :=
  ∃ before after, trail = before ++ row :: after ∧ Counts row ∧
    ∀ later ∈ after, Counts later → key later ≠ key row

/-- Nothing that counts stands before the row that opens its key. -/
def OpenedFirst (trail : List Row) : Prop :=
  trail.Pairwise fun earlier later => Counts earlier → Opens later → key earlier ≠ key later

variable {key Counts Opens} {trail : List Row} {row new : Row}

theorem Latest.mem (h : Latest key Counts trail row) : row ∈ trail := by
  obtain ⟨before, after, rfl, -, -⟩ := h
  exact List.mem_append_right before List.mem_cons_self

theorem Latest.counts (h : Latest key Counts trail row) : Counts row := by
  obtain ⟨-, -, -, hcounts, -⟩ := h
  exact hcounts

theorem latest_concat (h : Counts row) : Latest key Counts (trail ++ [row]) row :=
  ⟨trail, [], rfl, h, fun _ hlater => nomatch hlater⟩

/-- A row stays the last of its key until another of that key counts. -/
theorem Latest.concat (h : Latest key Counts trail row) (hnew : Counts new → key new ≠ key row) :
    Latest key Counts (trail ++ [new]) row := by
  obtain ⟨before, after, rfl, hcounts, hlast⟩ := h
  refine ⟨before, after ++ [new], by simp, hcounts, ?_⟩
  intro later hlater hl
  rcases List.mem_append.mp hlater with hold | hlater
  · exact hlast later hold hl
  · obtain rfl := List.mem_singleton.mp hlater
    exact hnew hl

theorem Latest.of_concat (h : Latest key Counts (trail ++ [new]) row) :
    row = new ∨ Latest key Counts trail row ∧ (Counts new → key new ≠ key row) := by
  obtain ⟨before, after, heq, hcounts, hlast⟩ := h
  rcases List.eq_nil_or_concat after with rfl | ⟨init, last, rfl⟩
  · exact Or.inl (List.append_inj_right' heq rfl |> List.singleton_inj.mp).symm
  · rw [List.concat_eq_append, ← List.cons_append, ← List.append_assoc] at heq
    obtain ⟨rfl, hnew⟩ := List.append_inj' heq rfl
    obtain rfl := List.singleton_inj.mp hnew
    rw [List.concat_eq_append] at hlast
    refine Or.inr ⟨⟨before, init, rfl, hcounts, ?_⟩, ?_⟩
    · intro later hlater
      exact hlast later (List.mem_append_left _ hlater)
    · exact hlast new (List.mem_append_right _ (List.mem_singleton_self new))

/-- Of a key that has a row that counts, one row is the last. -/
theorem exists_latest (key : Row → Key) (hmem : row ∈ trail) (h : Counts row) :
    ∃ last, Latest key Counts trail last ∧ key last = key row := by
  induction trail using List.reverseRecOn with
  | nil => cases hmem
  | append_singleton init new ih =>
    by_cases hnew : Counts new ∧ key new = key row
    · exact ⟨new, latest_concat hnew.1, hnew.2⟩
    · rcases List.mem_append.mp hmem with hold | hlast
      · obtain ⟨last, hlatest, hkey⟩ := ih hold
        refine ⟨last, hlatest.concat fun hc heq => hnew ⟨hc, heq.trans hkey⟩, hkey⟩
      · obtain rfl := List.mem_singleton.mp hlast
        exact absurd ⟨h, rfl⟩ hnew

theorem openedFirst_nil : OpenedFirst key Counts Opens [] := List.Pairwise.nil

theorem OpenedFirst.concat (h : OpenedFirst key Counts Opens trail)
    (hnew : Opens new → ∀ earlier ∈ trail, Counts earlier → key earlier ≠ key new) :
    OpenedFirst key Counts Opens (trail ++ [new]) := by
  refine List.pairwise_append.mpr ⟨h, List.pairwise_singleton _ _, ?_⟩
  intro earlier hearlier later hlater hcounts hopens
  obtain rfl := List.mem_singleton.mp hlater
  exact hnew hopens earlier hearlier hcounts

/-- No key is opened twice. -/
theorem OpenedFirst.once [DecidableEq Key] [DecidablePred Opens]
    (h : OpenedFirst key Counts Opens trail) (hopens : ∀ row, Opens row → Counts row) (k : Key) :
    trail.countP (fun row => decide (Opens row ∧ key row = k)) ≤ 1 := by
  induction trail with
  | nil => exact Nat.zero_le 1
  | cons first rest ih =>
    obtain ⟨hfirst, hrest⟩ := List.pairwise_cons.mp h
    by_cases hk : Opens first ∧ key first = k
    · have hnone : rest.countP (fun row => decide (Opens row ∧ key row = k)) = 0 := by
        rw [List.countP_eq_zero]
        intro later hlater hl
        obtain ⟨hopen, hkey⟩ := of_decide_eq_true hl
        exact hfirst later hlater (hopens first hk.1) hopen (hk.2.trans hkey.symm)
      refine Nat.le_of_eq ?_
      rw [List.countP_cons, hnone, if_pos (decide_eq_true hk)]
    · rw [List.countP_cons, if_neg (by simpa using hk)]
      exact ih hrest

end AuditTrail
