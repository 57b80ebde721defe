import Mathlib.Data.List.Infix

/-!
# Patterns with wildcards

One wildcard of a pattern stands for any run of characters, one for any character, and
a dialect may have an escape after which the next character stands for itself.
-/

namespace LikePattern

universe u

/-- The characters of a pattern that do not stand for themselves. -/
structure Wildcards (α : Type u) where
  run : α
  one : α
  escape : Option α
  apart : escape ≠ some run

inductive Symbol (α : Type u) where
  | run
  | one
  | char (c : α)

variable {α : Type u} [DecidableEq α]

def symbol (w : Wildcards α) (c : α) : Symbol α :=
  if c = w.run then .run else if c = w.one then .one else .char c

/-- The pattern as its dialect reads it; an escape at its end is an error. -/
def symbols (w : Wildcards α) : List α → Option (List (Symbol α))
  | [] => some []
  | [p] => if w.escape = some p then none else some [symbol w p]
  | p :: d :: more =>
    if w.escape = some p then (symbols w more).map fun rest => .char d :: rest
    else (symbols w (d :: more)).map fun rest => symbol w p :: rest

/-- The symbols cover the whole text. -/
def covers : List (Symbol α) → List α → Bool
  | [], text => text.isEmpty
  | .run :: more, text => text.tails.any fun rest => covers more rest
  | .one :: _, [] => false
  | .one :: more, _ :: rest => covers more rest
  | .char _ :: _, [] => false
  | .char c :: more, d :: rest => decide (c = d) && covers more rest

def like (w : Wildcards α) (pattern text : List α) : Bool :=
  match symbols w pattern with
  | none => false
  | some read => covers read text

/-- Every character stands for itself. -/
def Plain (w : Wildcards α) (text : List α) : Prop :=
  ∀ c ∈ text, c ≠ w.run ∧ c ≠ w.one ∧ w.escape ≠ some c

variable {w : Wildcards α} {word text : List α}

theorem symbols_cons {c : α} (h : w.escape ≠ some c) (more : List α) :
    symbols w (c :: more) = (symbols w more).map fun rest => symbol w c :: rest := by
  cases more with
  | nil => simp [symbols, h]
  | cons d rest => rw [symbols, if_neg h]

theorem symbols_append (h : Plain w word) (more : List α) :
    symbols w (word ++ more) = (symbols w more).map fun rest => word.map .char ++ rest := by
  induction word with
  | nil => simp
  | cons c tail ih =>
    obtain ⟨⟨hrun, hone, hescape⟩, htail⟩ := List.forall_mem_cons.mp h
    rw [List.cons_append, symbols_cons hescape, ih htail, Option.map_map, symbol, if_neg hrun,
      if_neg hone]
    rfl

theorem covers_word (more : List (Symbol α)) :
    covers (word.map .char ++ more) text = true ↔
      ∃ rest, text = word ++ rest ∧ covers more rest = true := by
  induction word generalizing text with
  | nil => simp
  | cons c tail ih =>
    cases text with
    | nil => simp [covers]
    | cons d rest =>
      rw [List.map_cons, List.cons_append, covers, Bool.and_eq_true, decide_eq_true_iff, ih]
      constructor
      · rintro ⟨rfl, more, rfl, hmore⟩
        exact ⟨more, rfl, hmore⟩
      · rintro ⟨more, heq, hmore⟩
        obtain ⟨rfl, rfl⟩ := List.cons.inj heq
        exact ⟨rfl, more, rfl, hmore⟩

/-- A word between two runs is matched by the texts that hold it. -/
theorem like_around (h : Plain w word) :
    like w (w.run :: (word ++ [w.run])) text = true ↔ word <:+: text := by
  have hrun : symbol w w.run = .run := if_pos rfl
  have hlast : symbols w [w.run] = some [.run] := by
    rw [symbols, if_neg w.apart, hrun]
  have hall : ∀ rest : List α, covers [.run] rest = true := by
    intro rest
    exact List.any_eq_true.mpr ⟨[], (List.mem_tails _ _).mpr List.nil_suffix, rfl⟩
  unfold like
  rw [symbols_cons w.apart, symbols_append h, hlast, hrun]
  simp only [Option.map_some, covers, List.any_eq_true, List.mem_tails]
  constructor
  · rintro ⟨rest, ⟨front, rfl⟩, hcovers⟩
    obtain ⟨more, rfl, -⟩ := (covers_word _).mp hcovers
    exact ⟨front, more, List.append_assoc front word more⟩
  · rintro ⟨front, more, rfl⟩
    refine ⟨word ++ more, ⟨front, by rw [List.append_assoc]⟩, ?_⟩
    exact (covers_word _).mpr ⟨more, rfl, hall more⟩

end LikePattern
