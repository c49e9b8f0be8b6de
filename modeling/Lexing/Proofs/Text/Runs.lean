import Lexing.Proofs.Text.LineBreak
import Mathlib.Algebra.GroupWithZero.Nat
import Mathlib.Data.List.SplitBy

/-!
# Line breaks by alternating runs

Breaks are counted from left to right, and how a breaking character is read depends on all those
right in front of it. Yet their number can be told without reading in any order. A text falls apart
into runs, as long as can be, in which each character makes a pair with the next one. No pair
reaches from one run into another, so their breaks add up; and in a run every second character
completes a break, wherever the reading starts.

## Main results

* `Text.breaks_flatten`: the breaks of pieces add up where no cut splits a pair
* `Text.breaks_of_alternating`: a run has half as many breaks as characters, rounded up
* `Text.breaks_eq_sum`: the breaks of a text, run by run
-/

namespace Lexing.Text

/-- The breaks of pieces add up where no cut between two of them splits a pair. -/
theorem breaks_flatten {pieces : List Text}
    (apart : pieces.IsChain fun a b =>
      ∃ (some : a ≠ []) (more : b ≠ []), isPair (a.getLast some) (b.head more) = false) :
    breaks pieces.flatten = (pieces.map breaks).sum := by
  induction pieces with
  | nil => exact breaks_nil
  | cons a pieces ih =>
    cases pieces with
    | nil => simp
    | cons b pieces =>
      obtain ⟨⟨some, more, single⟩, later⟩ := List.isChain_cons_cons.1 apart
      -- The second piece is not empty, so what follows the first one starts as the second does.
      have whole : ¬ Splits a (b :: pieces).flatten := by
        rintro ⟨c, last, d, first, pair⟩
        rw [List.flatten_cons, List.head?_append_of_ne_nil _ more, List.head?_eq_some_head more,
          Option.mem_some_iff] at first
        rw [List.getLast?_eq_some_getLast some, Option.mem_some_iff] at last
        rw [← last, ← first, single] at pair
        contradiction
      rw [List.flatten_cons, breaks_append_of_not_splits whole, ih later]
      exact List.sum_cons.symm

/-- In a run of breaking characters that alternate, every second one completes a break. -/
theorem breaks_of_alternating {run : Text} (alternating : run.IsChain (isPair · ·))
    (breaking : hasBreak run = true) : breaks run = (run.length + 1) / 2 := by
  induction run using List.twoStepInduction with
  | nil => contradiction
  | singleton c =>
    rw [hasBreak_cons, hasBreak_nil, Bool.or_false] at breaking
    rw [breaks_of_single breaking (by simp), breaks_nil, List.length_singleton]
  | cons_cons c d run ih =>
    obtain ⟨pair, later⟩ := List.isChain_cons_cons.1 alternating
    rw [breaks_of_isPair pair]
    cases run with
    | nil => simp
    | cons e run =>
      -- The rest of the run starts with the same character as the run.
      obtain ⟨next, rest⟩ := List.isChain_cons_cons.1 later
      have more : hasBreak (e :: run) = true := by
        rw [hasBreak_cons, (isBreak_of_isPair next).2, Bool.true_or]
      rw [ih rest more]
      simp only [List.length_cons]
      omega

/-- The breaks of a text are those of its alternating runs. What breaks no line is in no run. -/
theorem breaks_eq_sum (text : Text) : breaks text =
    (((text.splitBy isPair).filter hasBreak).map fun run => (run.length + 1) / 2).sum := by
  have pieces := breaks_flatten (List.isChain_getLast_head_splitBy isPair text)
  rw [List.flatten_splitBy] at pieces
  rw [pieces]
  have alternating : ∀ run ∈ text.splitBy isPair, run.IsChain (isPair · ·) :=
    fun run inside => List.isChain_of_mem_splitBy inside
  generalize text.splitBy isPair = runs at alternating
  induction runs with
  | nil => rfl
  | cons run runs ih =>
    have later := ih fun run inside => alternating run (List.mem_cons_of_mem _ inside)
    rw [List.map_cons, List.sum_cons, later]
    cases breaking : hasBreak run with
    | false =>
      rw [breaks_eq_zero_of_not_hasBreak breaking, Nat.zero_add,
        List.filter_cons_of_neg (by simp [breaking])]
    | true =>
      rw [List.filter_cons_of_pos breaking, List.map_cons, List.sum_cons,
        breaks_of_alternating (alternating run List.mem_cons_self) breaking]

end Lexing.Text
