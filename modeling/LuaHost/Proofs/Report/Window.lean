import LuaHost.Report.Context
import Mathlib.Data.List.Basic

/-!
# Laws of code contexts

Which lines the window around a line shows. The bounds are computed on words and are those of
natural numbers (`firstLine_toNat`, `lastLine_toNat`); the shown lines are then told by their
positions (`getElem?_of_cut?`), and the marked one among them is the line that was asked for
(`marks_of_cut?`).
-/

namespace LuaHost

open LuaHost.Text

/-- The number of the first line of the window around a line. -/
def ContextWindow.first (window : ContextWindow) (line : Nat) : Nat :=
  max (line - window.before.toNat) 1

/-- The number of the last line of the window around a line of a source that has `count` lines. -/
def ContextWindow.last (window : ContextWindow) (line count : Nat) : Nat :=
  min (line + window.after.toNat) count

namespace CodeContext

/-! ### Bounds -/

section

variable (line total : UInt32) (window : ContextWindow)

/-- Subtraction that stops at zero is that of natural numbers. -/
lemma saturatingSub_toNat (a b : UInt32) : (saturatingSub a b).toNat = a.toNat - b.toNat := by
  unfold saturatingSub
  split
  case isTrue le => exact UInt32.toNat_sub_of_le _ _ le
  case isFalse gt =>
    rw [UInt32.le_iff_toNat_le] at gt
    exact (Nat.sub_eq_zero_of_le (by omega)).symm

/-- Addition that stops at the largest word is that of natural numbers up to there. -/
lemma saturatingAdd_toNat (a b : UInt32) :
    (saturatingAdd a b).toNat = min (a.toNat + b.toNat) (UInt32.size - 1) := by
  unfold saturatingAdd
  split
  case isTrue fits =>
    rw [UInt32.toNat_add, Nat.mod_eq_of_lt fits]
    omega
  case isFalse full =>
    have largest : (UInt32.ofNat (UInt32.size - 1)).toNat = UInt32.size - 1 := rfl
    rw [largest]
    omega

/-- The larger word has the larger number. -/
lemma toNat_max (a b : UInt32) : (max a b).toNat = max a.toNat b.toNat := by
  change (if a ≤ b then b else a).toNat = _
  simp only [UInt32.le_iff_toNat_le]
  split <;> omega

/-- The smaller word has the smaller number. -/
lemma toNat_min (a b : UInt32) : (min a b).toNat = min a.toNat b.toNat := by
  change (if a ≤ b then a else b).toNat = _
  simp only [UInt32.le_iff_toNat_le]
  split <;> omega

/-- The first line of a window, computed on words, is that of natural numbers. -/
lemma firstLine_toNat : (firstLine line window).toNat = window.first line.toNat := by
  rw [firstLine, toNat_max, saturatingSub_toNat]
  rfl

/-- So is the last one, for no source that is shown has more lines than words count. -/
lemma lastLine_toNat : (lastLine line total window).toNat = window.last line.toNat total.toNat := by
  have fits : total.toNat ≤ UInt32.size - 1 := Nat.le_pred_of_lt total.toNat_lt
  rw [lastLine, toNat_min, saturatingAdd_toNat, ContextWindow.last]
  omega

end

/-! ### Lines -/

/-- A source has a line of this number, and not too many lines to number them all. -/
structure HasLine (source : String) (line : UInt32) : Prop where
  numbered : (Text.lines source.toList).length < UInt32.size
  positive : 1 ≤ line.toNat
  le_length : line.toNat ≤ (Text.lines source.toList).length

/-- Lines are numbered one after the other. -/
lemma getElem?_numbered (number : Nat) (all : List (List Char)) (i : Nat) :
    (numbered number all)[i]? = all[i]?.map fun line => (number + i, line) := by
  induction all generalizing number i with
  | nil => rfl
  | cons line rest ih =>
    cases i with
    | zero => rfl
    | succ i =>
      rw [numbered, List.getElem?_cons_succ, List.getElem?_cons_succ, ih, Nat.add_right_comm,
        Nat.add_assoc]

variable {source : String} {line : UInt32} {window : ContextWindow} {shown : CodeContext}

/-- A source has a line if and only if the test for it passes. -/
lemma hasLine_iff :
    (decide ((Text.lines source.toList).length < UInt32.size) && line != 0 &&
      decide (line.toNat ≤ (Text.lines source.toList).length)) = true ↔ HasLine source line := by
  have positive : line ≠ 0 ↔ 1 ≤ line.toNat := by
    rw [Ne, ← UInt32.toNat_inj]
    exact Nat.pos_iff_ne_zero.symm
  simp only [Bool.and_eq_true, decide_eq_true_eq, bne_iff_ne, positive]
  exact ⟨fun ⟨⟨fits, some_line⟩, le⟩ => ⟨fits, some_line, le⟩,
    fun ⟨fits, some_line, le⟩ => ⟨⟨fits, some_line⟩, le⟩⟩

/-- There is a context exactly around the lines of a source. -/
lemma cut?_isSome_iff : (cut? source line window).isSome = true ↔ HasLine source line := by
  rw [← hasLine_iff]
  simp only [cut?]
  split
  case isTrue has => exact ⟨fun _ => has, fun _ => rfl⟩
  case isFalse lacks => exact ⟨nofun, fun has => absurd has lacks⟩

/-- Where code is shown, the source has the line. -/
lemma hasLine_of_cut? (cut : cut? source line window = some shown) : HasLine source line := by
  rw [← cut?_isSome_iff, cut, Option.isSome_some]

/-- A line is inside the window around it. -/
lemma HasLine.inside (has : HasLine source line) (window : ContextWindow) :
    1 ≤ window.first line.toNat ∧ window.first line.toNat ≤ line.toNat ∧
      line.toNat ≤ window.last line.toNat (Text.lines source.toList).length := by
  obtain ⟨_, positive, le_length⟩ := has
  unfold ContextWindow.first ContextWindow.last
  omega

/-- The bounds of a window around a line, as words, are those in natural numbers, and the lines from
the first to the last can be counted in a word. -/
lemma HasLine.bounds (has : HasLine source line) (window : ContextWindow) :
    let count := (Text.lines source.toList).length
    let first := firstLine line window
    let last := lastLine line (UInt32.ofNat count) window
    first.toNat = window.first line.toNat ∧ last.toNat = window.last line.toNat count ∧
      1 ≤ first.toNat ∧ first.toNat ≤ last.toNat ∧ last.toNat - first.toNat + 1 < UInt32.size := by
  intro count first last
  obtain ⟨one_le, first_le, le_last⟩ := has.inside window
  have from_first : first.toNat = window.first line.toNat := firstLine_toNat line window
  have to_last : last.toNat = window.last line.toNat count := by
    rw [lastLine_toNat, UInt32.toNat_ofNat_of_lt' has.numbered]
  have positive : 1 ≤ first.toNat := by
    rw [from_first]
    exact one_le
  have ordered : first.toNat ≤ last.toNat := by
    rw [from_first, to_last]
    exact Nat.le_trans first_le le_last
  have bounded : last.toNat < UInt32.size := last.toNat_lt
  exact ⟨from_first, to_last, positive, ordered, by omega⟩

/-- Counting the lines before and in a window wraps around nowhere. -/
lemma HasLine.counts (has : HasLine source line) (window : ContextWindow) :
    let count := (Text.lines source.toList).length
    let first := firstLine line window
    let last := lastLine line (UInt32.ofNat count) window
    (first - 1).toNat = window.first line.toNat - 1 ∧
      (last - first + 1).toNat = window.last line.toNat count - window.first line.toNat + 1 := by
  intro count first last
  obtain ⟨from_first, to_last, positive, ordered, fits⟩ := has.bounds window
  constructor
  · have le : 1 ≤ first := UInt32.le_iff_toNat_le.mpr positive
    rw [UInt32.toNat_sub_of_le _ _ le, from_first]
    rfl
  · have le : first ≤ last := UInt32.le_iff_toNat_le.mpr ordered
    rw [UInt32.toNat_add, UInt32.toNat_sub_of_le _ _ le, ← from_first, ← to_last]
    exact Nat.mod_eq_of_lt fits

/-- A context shows the lines from the first to the last of the window, in their order. -/
lemma getElem?_of_cut? (cut : cut? source line window = some shown) (i : Nat) :
    shown.lines[i]? =
      if window.first line.toNat + i ≤ window.last line.toNat (Text.lines source.toList).length then
        (Text.lines source.toList)[window.first line.toNat + i - 1]?.map fun text =>
          { number := UInt32.ofNat (window.first line.toNat + i), text := String.ofList text
            isError := window.first line.toNat + i == line.toNat }
      else none := by
  have has : HasLine source line := hasLine_of_cut? cut
  obtain ⟨one_le, first_le, le_last⟩ := has.inside window
  obtain ⟨before, within⟩ := has.counts window
  simp only [cut?] at cut
  rw [if_pos (hasLine_iff.mpr has), Option.some.injEq] at cut
  rw [← cut, before, within, List.getElem?_map, List.getElem?_take, List.getElem?_drop,
    getElem?_numbered]
  generalize window.first line.toNat = first at *
  generalize window.last line.toNat _ = last at *
  have number : 1 + (first - 1 + i) = first + i := by omega
  have position : first - 1 + i = first + i - 1 := by omega
  have inside : i < last - first + 1 ↔ first + i ≤ last := by omega
  rw [number, position]
  simp only [inside]
  split
  case isTrue =>
    rw [Option.map_map]
    rfl
  case isFalse => rfl

/-- A shown line is marked if and only if its place is that of the line in question. -/
lemma isError_of_cut? (cut : cut? source line window = some shown) {i : Nat} {row : ContextLine}
    (here : shown.lines[i]? = some row) :
    row.isError = (window.first line.toNat + i == line.toNat) := by
  rw [getElem?_of_cut? cut] at here
  split at here
  case isTrue =>
    obtain ⟨_, _, rfl⟩ := Option.map_eq_some_iff.mp here
    rfl
  case isFalse => cases here

/-- The marked line of a context is a line of a source, with its number and its text. -/
def Marks (shown : CodeContext) (source : String) (line : UInt32) : Prop :=
  ∃ text, (Text.lines source.toList)[line.toNat - 1]? = some text ∧
    shown.errorLine? = some { number := line, text := String.ofList text, isError := true }

/-- The marked line of a context is the line that it is about. -/
lemma marks_of_cut? (cut : cut? source line window = some shown) : shown.Marks source line := by
  have has : HasLine source line := hasLine_of_cut? cut
  obtain ⟨_, first_le, le_last⟩ := has.inside window
  have inside : line.toNat - 1 < (Text.lines source.toList).length := by
    have := has.positive
    have := has.le_length
    omega
  refine ⟨_, List.getElem?_eq_getElem inside, ?_⟩
  -- It is shown as far behind the first line as its number is above the first number.
  have number :
      window.first line.toNat + (line.toNat - window.first line.toNat) = line.toNat := by
    omega
  have marked := getElem?_of_cut? cut (line.toNat - window.first line.toNat)
  rw [number, if_pos le_last, List.getElem?_eq_getElem inside, Option.map_some, UInt32.ofNat_toNat,
    beq_self_eq_true] at marked
  obtain ⟨shorter, e⟩ := List.getElem?_eq_some_iff.mp marked
  refine List.find?_eq_some_iff_getElem.mpr ⟨rfl, _, shorter, e, ?_⟩
  intro j before
  have other := isError_of_cut? cut (List.getElem?_eq_getElem (Nat.lt_trans before shorter))
  rw [other, Bool.not_eq_true', beq_eq_false_iff_ne]
  omega

end CodeContext

end LuaHost
