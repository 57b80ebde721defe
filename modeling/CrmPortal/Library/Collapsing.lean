import CrmPortal.Library.Trimming
import Mathlib.Data.List.Chain

/-!
# Collapsing the runs of a list

`collapse p s` puts one `s` in the place of every longest run of elements that satisfy `p`,
as a substitution for the pattern `p+` does. It changes nothing exactly on the lists whose
runs are one `s` long.
-/

namespace Collapsing

open Trimming

universe u
variable {α : Type u} {p : α → Bool} {s c : α} {l : List α} {inRun : Bool}

/-- `inRun` says that the element before was of a run. -/
def collapseFrom (p : α → Bool) (s : α) : Bool → List α → List α
  | _, [] => []
  | inRun, c :: rest =>
    if p c then
      if inRun then collapseFrom p s true rest else s :: collapseFrom p s true rest
    else c :: collapseFrom p s false rest

def collapse (p : α → Bool) (s : α) (l : List α) : List α := collapseFrom p s false l

structure Collapsed (p : α → Bool) (s : α) (l : List α) : Prop where
  run : ∀ c ∈ l, p c = true → c = s
  apart : l.IsChain fun c d => p c = true → p d = false

theorem collapsed_nil : Collapsed p s [] := ⟨by simp, List.isChain_nil⟩

theorem collapsed_cons_iff : Collapsed p s (c :: l) ↔
    (p c = true → c = s ∧ ∀ d ∈ l.head?, p d = false) ∧ Collapsed p s l := by
  constructor
  · rintro ⟨hrun, hapart⟩
    obtain ⟨hhead, htail⟩ := List.isChain_cons.mp hapart
    refine ⟨fun hc => ⟨hrun c (List.mem_cons_self ..) hc, fun d hd => hhead d hd hc⟩, ?_, htail⟩
    exact fun d hd => hrun d (List.mem_cons_of_mem c hd)
  · rintro ⟨hc, hrun, hapart⟩
    refine ⟨fun d hd hp => ?_, List.isChain_cons.mpr ⟨fun d hd hp => (hc hp).2 d hd, hapart⟩⟩
    rcases List.mem_cons.mp hd with rfl | htail
    · exact (hc hp).1
    · exact hrun d htail hp

theorem length_collapseFrom_le : (collapseFrom p s inRun l).length ≤ l.length := by
  induction l generalizing inRun with
  | nil => rfl
  | cons c l ih =>
    have hopen := @ih true
    have hclosed := @ih false
    simp only [collapseFrom, List.length_cons]
    split
    · split
      · omega
      · simpa using hopen
    · simpa using hclosed

theorem collapseFrom_eq_self_iff : collapseFrom p s inRun l = l ↔
    (inRun = true → ∀ d ∈ l.head?, p d = false) ∧ Collapsed p s l := by
  induction l generalizing inRun with
  | nil => simp [collapseFrom, collapsed_nil]
  | cons c l ih =>
    rw [collapsed_cons_iff]
    by_cases hc : p c = true
    · cases inRun with
      | true =>
        -- The result lacks an element, and `c` may not stand here.
        have hlen : collapseFrom p s true l ≠ c :: l := by
          intro h
          have hle := @length_collapseFrom_le α p s l true
          rw [h, List.length_cons] at hle
          omega
        simp [collapseFrom, hc, hlen]
      | false =>
        have hrest := @ih true
        simp only [collapseFrom, hc, if_true, Bool.false_eq_true, if_false, List.cons.injEq, hrest,
          true_implies, false_implies, true_and]
        constructor
        · rintro ⟨rfl, hhead, htail⟩
          exact ⟨⟨rfl, hhead⟩, htail⟩
        · rintro ⟨⟨rfl, hhead⟩, htail⟩
          exact ⟨rfl, hhead, htail⟩
    · simp [collapseFrom, hc, @ih false]

theorem collapse_eq_self_iff : collapse p s l = l ↔ Collapsed p s l := by
  unfold collapse
  simp [collapseFrom_eq_self_iff]

theorem collapsed_collapseFrom :
    (inRun = true → ∀ d ∈ (collapseFrom p s inRun l).head?, p d = false) ∧
      Collapsed p s (collapseFrom p s inRun l) := by
  induction l generalizing inRun with
  | nil => simp [collapseFrom, collapsed_nil]
  | cons c l ih =>
    obtain ⟨hhead, hopen⟩ := @ih true
    obtain ⟨-, hclosed⟩ := @ih false
    by_cases hc : p c = true
    · cases inRun with
      | true =>
        rw [collapseFrom, if_pos hc, if_pos rfl]
        exact ⟨hhead, hopen⟩
      | false =>
        simp only [collapseFrom, hc, if_true, Bool.false_eq_true, if_false, false_implies, true_and]
        exact collapsed_cons_iff.mpr ⟨fun _ => ⟨rfl, hhead rfl⟩, hopen⟩
    · simp only [collapseFrom, hc, Bool.false_eq_true, if_false]
      refine ⟨fun _ d hd => ?_, collapsed_cons_iff.mpr ⟨fun h => absurd h hc, hclosed⟩⟩
      rw [List.head?_cons, Option.mem_some_iff] at hd
      rw [← hd]
      simpa using hc

theorem collapseFrom_concat (hc : p c = false) :
    collapseFrom p s inRun (l ++ [c]) = collapseFrom p s inRun l ++ [c] := by
  induction l generalizing inRun with
  | nil => simp [collapseFrom, hc]
  | cons d l ih =>
    rw [List.cons_append]
    simp only [collapseFrom, ih]
    split
    · split <;> rfl
    · rfl

/-- Nothing to trim before, nothing to trim after. -/
theorem trim_collapse (h : trim p l = l) : trim p (collapse p s l) = collapse p s l := by
  obtain ⟨hhead, hlast⟩ := trim_eq_self_iff.mp h
  unfold collapse
  refine trim_eq_self_iff.mpr ⟨?_, ?_⟩
  · cases l with
    | nil => simp [collapseFrom]
    | cons c l =>
      have hc : p c = false := hhead c rfl
      simp [collapseFrom, hc]
  · rcases List.eq_nil_or_concat l with rfl | ⟨front, c, rfl⟩
    · simp [collapseFrom]
    · have hc : p c = false := hlast c (by simp)
      rw [List.concat_eq_append, collapseFrom_concat hc]
      simpa using hc

/-- A list is its trimmed and collapsed form if there is nothing to trim or to collapse. -/
theorem collapse_trim_eq_self_iff :
    collapse p s (trim p l) = l ↔ trim p l = l ∧ Collapsed p s l := by
  constructor
  · intro h
    have htrim : trim p l = l := by
      refine trim_sublist.eq_of_length_le ?_
      calc l.length = (collapse p s (trim p l)).length := by rw [h]
        _ ≤ (trim p l).length := length_collapseFrom_le
    rw [htrim] at h
    exact ⟨htrim, collapse_eq_self_iff.mp h⟩
  · rintro ⟨htrim, hcollapsed⟩
    rw [htrim, collapse_eq_self_iff.mpr hcollapsed]

theorem collapse_trim_idem :
    collapse p s (trim p (collapse p s (trim p l))) = collapse p s (trim p l) :=
  collapse_trim_eq_self_iff.mpr ⟨trim_collapse trim_trim, collapsed_collapseFrom.2⟩

end Collapsing
