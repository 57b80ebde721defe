import Mathlib.Algebra.Order.BigOperators.Group.List
import Mathlib.Algebra.Order.Ring.Nat

/-!
# Texts with quoted literals

A text is made of pieces of code, each followed by a literal between two marks. Inside
a literal the mark stands for itself when it is doubled, and otherwise closes the
literal. `fill` writes a text from its pieces, with no regard for what the literals
hold; `read` takes it apart as its reader does. The two agree as long as no literal
holds the mark.
-/

namespace QuotedText

universe u

variable {α : Type u} [DecidableEq α] (mark : α)

/-- The spelling of a value inside a literal. -/
def escape : List α → List α
  | [] => []
  | c :: rest => if c = mark then mark :: mark :: escape rest else c :: escape rest

/-- The value of the literal that has just been opened, and what follows it. -/
def readLiteral : List α → Option (List α × List α)
  | [] => none
  | [c] => if c = mark then some ([], []) else none
  | c :: d :: more =>
    if c = mark then
      if d = mark then (readLiteral more).map fun found => (mark :: found.1, found.2)
      else some ([], d :: more)
    else (readLiteral (d :: more)).map fun found => (c :: found.1, found.2)

/-- The pieces of code with their literals, and the rest of the text. -/
def fill : List (List α × List α) → List α → List α
  | [], rest => rest
  | (code, value) :: pieces, rest => code ++ mark :: (value ++ mark :: fill pieces rest)

/-- The values of the literals that follow the pieces of code, and the rest. -/
def read : List (List α) → List α → Option (List (List α) × List α)
  | [], text => some ([], text)
  | code :: codes, text =>
    match text.dropPrefix? code with
    | none => none
    | some [] => none
    | some (c :: opened) =>
      if c = mark then
        match readLiteral mark opened with
        | none => none
        | some (value, after) => (read codes after).map fun found => (value :: found.1, found.2)
      else none

/-- The text goes on, if at all, with something other than the mark. -/
def Apart (text : List α) : Prop := text.head? ≠ some mark

variable {mark} {code text value rest opened : List α} {codes values : List (List α)}

theorem escape_eq_self (h : mark ∉ value) : escape mark value = value := by
  induction value with
  | nil => rfl
  | cons c tail ih =>
    obtain ⟨hne, htail⟩ := List.ne_and_not_mem_of_not_mem_cons h
    rw [escape, if_neg (Ne.symm hne), ih htail]

theorem length_le_escape (value : List α) : value.length ≤ (escape mark value).length := by
  induction value with
  | nil => exact Nat.le_refl 0
  | cons c tail ih =>
    unfold escape
    split
    · simp only [List.length_cons]
      omega
    · simp only [List.length_cons]
      omega

theorem length_lt_escape (h : mark ∈ value) : value.length < (escape mark value).length := by
  induction value with
  | nil => cases h
  | cons c tail ih =>
    have hle : tail.length ≤ (escape mark tail).length := length_le_escape tail
    unfold escape
    split
    · simp only [List.length_cons]
      omega
    · next hc =>
      have htail := ih ((List.mem_cons.mp h).resolve_left (Ne.symm hc))
      simp only [List.length_cons]
      omega

theorem readLiteral_escape (h : Apart mark rest) :
    readLiteral mark (escape mark value ++ mark :: rest) = some (value, rest) := by
  induction value with
  | nil =>
    cases rest with
    | nil => simp [escape, readLiteral]
    | cons d more =>
      have hd : d ≠ mark := fun heq => h (heq ▸ rfl)
      simp [escape, readLiteral, hd]
  | cons c tail ih =>
    unfold escape
    split
    · next hc =>
      subst hc
      rw [List.cons_append, List.cons_append, readLiteral, if_pos rfl, if_pos rfl, ih]
      rfl
    · next hc =>
      -- what follows a character of the value is never the end of the text
      obtain ⟨d, more, hmore⟩ : ∃ d more, escape mark tail ++ mark :: rest = d :: more := by
        cases escape mark tail with
        | nil => exact ⟨mark, rest, rfl⟩
        | cons d more => exact ⟨d, more ++ mark :: rest, rfl⟩
      rw [hmore] at ih
      rw [List.cons_append, hmore, readLiteral, if_neg hc, ih]
      rfl

/-- A literal is read exactly out of its spelling, up to the mark that closes it. -/
theorem readLiteral_eq_some_iff : readLiteral mark opened = some (value, rest) ↔
    opened = escape mark value ++ mark :: rest ∧ Apart mark rest := by
  constructor
  · intro h
    induction opened using readLiteral.induct mark generalizing value rest with
    | case1 => cases h
    | case2 =>
      obtain ⟨rfl, rfl⟩ := Prod.mk.inj (Option.some.inj (by simpa [readLiteral] using h))
      exact ⟨rfl, nofun⟩
    | case3 c hc =>
      rw [readLiteral, if_neg hc] at h
      cases h
    | case4 more ih =>
      rw [readLiteral, if_pos rfl, if_pos rfl] at h
      obtain ⟨⟨v, r⟩, hread, hpair⟩ := Option.map_eq_some_iff.mp h
      obtain ⟨rfl, rfl⟩ := Prod.mk.inj hpair
      obtain ⟨rfl, hrest⟩ := ih hread
      exact ⟨by rw [escape, if_pos rfl]; rfl, hrest⟩
    | case5 d more hd =>
      rw [readLiteral, if_pos rfl, if_neg hd] at h
      obtain ⟨rfl, rfl⟩ := Prod.mk.inj (Option.some.inj h)
      exact ⟨rfl, fun heq => hd (Option.some.inj heq)⟩
    | case6 c d more hc ih =>
      rw [readLiteral, if_neg hc] at h
      obtain ⟨⟨v, r⟩, hread, hpair⟩ := Option.map_eq_some_iff.mp h
      obtain ⟨rfl, rfl⟩ := Prod.mk.inj hpair
      obtain ⟨heq, hrest⟩ := ih hread
      exact ⟨by rw [heq, escape, if_neg hc]; rfl, hrest⟩
  · rintro ⟨rfl, h⟩
    exact readLiteral_escape h

omit [DecidableEq α] in
theorem length_fill (hlength : values.length = codes.length) :
    (fill mark (codes.zip values) rest).length = (codes.map List.length).sum +
      (values.map List.length).sum + 2 * codes.length + rest.length := by
  induction codes generalizing values with
  | nil =>
    obtain rfl := List.eq_nil_of_length_eq_zero hlength
    simp [fill]
  | cons code codes ih =>
    cases values with
    | nil => cases hlength
    | cons value values =>
      have hmore := ih (Nat.succ.inj hlength)
      simp only [List.zip_cons_cons, fill, List.length_append, List.length_cons, hmore,
        List.map_cons, List.sum_cons]
      omega

omit [DecidableEq α] in
theorem Apart.append (hne : code ≠ []) (h : Apart mark code) (rest : List α) :
    Apart mark (code ++ rest) := by
  obtain ⟨c, more, rfl⟩ := List.exists_cons_of_ne_nil hne
  exact h

omit [DecidableEq α] in
theorem apart_fill {pieces : List (List α × List α)}
    (hcodes : ∀ piece ∈ pieces, piece.1 ≠ [] ∧ Apart mark piece.1) (hrest : Apart mark rest) :
    Apart mark (fill mark pieces rest) := by
  cases pieces with
  | nil => exact hrest
  | cons piece tail =>
    obtain ⟨hne, hpart⟩ := hcodes piece List.mem_cons_self
    exact hpart.append hne _

/-- What is read out of a text, spelled again, is the text. -/
theorem fill_of_read (h : read mark codes text = some (values, rest)) :
    values.length = codes.length ∧
      text = fill mark (codes.zip (values.map (escape mark))) rest := by
  induction codes generalizing text values with
  | nil =>
    obtain ⟨rfl, rfl⟩ := Prod.mk.inj (Option.some.inj h)
    exact ⟨rfl, rfl⟩
  | cons code codes ih =>
    unfold read at h
    split at h
    · cases h
    · cases h
    · next c opened hdrop =>
      split at h
      · next hc =>
        split at h
        · cases h
        · next value after hread =>
          obtain ⟨⟨vs, r⟩, hmore, hpair⟩ := Option.map_eq_some_iff.mp h
          obtain ⟨rfl, rfl⟩ := Prod.mk.inj hpair
          obtain ⟨hlength, rfl⟩ := ih hmore
          obtain ⟨rfl, -⟩ := readLiteral_eq_some_iff.mp hread
          obtain ⟨front, rfl, hfront⟩ := List.dropPrefix?_eq_some_iff.mp hdrop
          obtain rfl := eq_of_beq hfront
          refine ⟨by rw [List.length_cons, List.length_cons, hlength], ?_⟩
          rw [hc]
          rfl
      · cases h

theorem read_fill (hlength : values.length = codes.length)
    (hcodes : ∀ code ∈ codes, code ≠ [] ∧ Apart mark code) (hrest : Apart mark rest) :
    read mark codes (fill mark (codes.zip (values.map (escape mark))) rest) =
      some (values, rest) := by
  induction codes generalizing values with
  | nil =>
    obtain rfl := List.eq_nil_of_length_eq_zero hlength
    rfl
  | cons code codes ih =>
    cases values with
    | nil => cases hlength
    | cons value values =>
      have hmore := ih (Nat.succ.inj hlength) fun c hc => hcodes c (List.mem_cons_of_mem _ hc)
      have hafter : Apart mark (fill mark (codes.zip (values.map (escape mark))) rest) := by
        refine apart_fill (fun piece hpiece => ?_) hrest
        exact hcodes piece.1 (List.mem_cons_of_mem _ (List.of_mem_zip hpiece).1)
      have hdrop : ∀ after : List α, (code ++ after).dropPrefix? code = some after := fun after =>
        List.dropPrefix?_eq_some_iff.mpr ⟨code, rfl, beq_self_eq_true code⟩
      rw [List.map_cons, List.zip_cons_cons, fill, read, hdrop]
      simp only [if_true, readLiteral_escape hafter, hmore, Option.map_some]

omit [DecidableEq α] in
theorem lengths_eq_of_sum {written : List (List α)}
    (h : List.Forall₂ (fun w v => w.length ≤ v.length) written values)
    (hsum : (written.map List.length).sum = (values.map List.length).sum) :
    written.map List.length = values.map List.length := by
  induction h with
  | nil => rfl
  | @cons first value written values hfirst hmore ih =>
    have hle : (written.map List.length).sum ≤ (values.map List.length).sum :=
      List.Forall₂.sum_le_sum (List.forall₂_map_left_iff.mpr (List.forall₂_map_right_iff.mpr hmore))
    simp only [List.map_cons, List.sum_cons] at hsum
    have heq : first.length = value.length := by omega
    rw [List.map_cons, List.map_cons, heq, ih (by omega)]

omit [DecidableEq α] in
/-- Literals of the same lengths are told apart by their text. -/
theorem fill_injective {written : List (List α)}
    (hlengths : written.map List.length = values.map List.length)
    (hcodes : values.length = codes.length)
    (h : fill mark (codes.zip written) rest = fill mark (codes.zip values) rest) :
    written = values := by
  induction codes generalizing written values with
  | nil =>
    obtain rfl := List.eq_nil_of_length_eq_zero hcodes
    exact List.map_eq_nil_iff.mp hlengths
  | cons code codes ih =>
    cases values with
    | nil => cases hcodes
    | cons value values =>
      cases written with
      | nil => cases hlengths
      | cons first written =>
        obtain ⟨hfirst, hmore⟩ := List.cons.inj hlengths
        have hopened := List.append_cancel_left h
        obtain ⟨rfl, hclosed⟩ := List.append_inj (List.cons.inj hopened).2 hfirst
        rw [ih hmore (Nat.succ.inj hcodes) (List.cons.inj hclosed).2]

/-- Literals that were written no longer than they are meant are read as they are meant
exactly if they were written so and none of them holds the mark. -/
theorem read_fill_iff {written : List (List α)} (hlength : values.length = codes.length)
    (hshort : List.Forall₂ (fun w v => w.length ≤ v.length) written values)
    (hcodes : ∀ code ∈ codes, code ≠ [] ∧ Apart mark code) (hrest : Apart mark rest) :
    read mark codes (fill mark (codes.zip written) rest) = some (values, rest) ↔
      written = values ∧ ∀ value ∈ values, mark ∉ value := by
  have hescaped : ∀ (h : ∀ value ∈ values, mark ∉ value), values.map (escape mark) = values := by
    intro h
    conv_rhs => rw [← List.map_id values]
    exact List.map_congr_left fun value hvalue => escape_eq_self (h value hvalue)
  constructor
  · intro h
    obtain ⟨-, htext⟩ := fill_of_read h
    have hwritten : written.length = codes.length := by rw [hshort.length_eq, hlength]
    have hsame := congrArg List.length htext
    rw [length_fill hwritten, length_fill (by rw [List.length_map, hlength]), List.map_map] at hsame
    have hshorter : (written.map List.length).sum ≤ (values.map List.length).sum :=
      List.Forall₂.sum_le_sum
        (List.forall₂_map_left_iff.mpr (List.forall₂_map_right_iff.mpr hshort))
    have hquotes : ∀ value ∈ values, mark ∉ value := by
      by_contra hmarked
      push Not at hmarked
      obtain ⟨value, hvalue, hmark⟩ := hmarked
      -- spelling that value makes the text longer
      have hlonger : (values.map List.length).sum <
          (values.map (List.length ∘ escape mark)).sum :=
        List.sum_lt_sum _ _ (fun v _ => length_le_escape v) ⟨value, hvalue, length_lt_escape hmark⟩
      omega
    rw [hescaped hquotes] at htext
    refine ⟨fill_injective (lengths_eq_of_sum hshort ?_) hlength htext, hquotes⟩
    rw [show values.map (List.length ∘ escape mark) = values.map List.length by
      rw [← List.map_map, hescaped hquotes]] at hsame
    omega
  · rintro ⟨rfl, h⟩
    have hread := read_fill hlength hcodes hrest
    rw [hescaped h] at hread
    exact hread

end QuotedText
