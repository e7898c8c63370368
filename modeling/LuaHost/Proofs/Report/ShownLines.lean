import LuaHost.Proofs.Report.Window
import LuaHost.Proofs.Text.Basic
import Mathlib.Data.List.GetD
import Mathlib.Data.List.Nodup

/-!
# The lines that a context shows

A context shows consecutive lines of a source, each with its number and its text, and marks the one
that it was asked for (`lines_of_cut?`). So it has no more lines than its window (`length_of_cut?`).
The main statement is `cut?_exactly`: when there is a context and what it then is, in numbers that
do not wrap around.
-/

namespace LuaHost

open LuaHost.Text

/-- The numbers of the lines in the window around a line of a source that has `count` lines. -/
def ContextWindow.numbers (window : ContextWindow) (line count : Nat) : List Nat :=
  List.range' (window.first line) (window.last line count + 1 - window.first line)

namespace CodeContext

/-- The row of a number: the line of a source that has it, marked if it is the failing one. -/
def rowOf (all : List (List Char)) (line : UInt32) (number : Nat) : ContextLine :=
  { number := UInt32.ofNat number, text := String.ofList (all.getD (number - 1) [])
    isError := number == line.toNat }

variable {source : String} {line : UInt32} {window : ContextWindow} {shown : CodeContext}

/-- A number is in a window from its first to its last one. -/
lemma HasLine.mem_numbers (has : HasLine source line) (window : ContextWindow) {number : Nat} :
    number ∈ window.numbers line.toNat (Text.lines source.toList).length ↔
      window.first line.toNat ≤ number ∧
        number ≤ window.last line.toNat (Text.lines source.toList).length := by
  obtain ⟨_, first_le, le_last⟩ := has.inside window
  rw [ContextWindow.numbers, List.mem_range'_1]
  omega

/-- What is in a window are lines of the source. -/
lemma HasLine.number_le (has : HasLine source line) (window : ContextWindow) {number : Nat}
    (mem : number ∈ window.numbers line.toNat (Text.lines source.toList).length) :
    1 ≤ number ∧ number ≤ (Text.lines source.toList).length := by
  obtain ⟨first_le, le_last⟩ := (has.mem_numbers window).mp mem
  constructor
  · exact Nat.le_trans (Nat.le_max_right _ _) first_le
  · exact Nat.le_trans le_last (Nat.min_le_right _ _)

/-- The rows are those of the numbers in the window. -/
lemma lines_of_cut? (cut : cut? source line window = some shown) :
    shown.lines = (window.numbers line.toNat (Text.lines source.toList).length).map
      (rowOf (Text.lines source.toList) line) := by
  have has : HasLine source line := hasLine_of_cut? cut
  apply List.ext_getElem?
  intro i
  rw [getElem?_of_cut? cut, List.getElem?_map]
  split
  case isTrue inside =>
    have le_count :=
      (has.number_le window ((has.mem_numbers window).mpr ⟨Nat.le_add_right _ i, inside⟩)).2
    have here :
        i < window.last line.toNat (Text.lines source.toList).length + 1 -
          window.first line.toNat := by
      omega
    have below : window.first line.toNat + i - 1 < (Text.lines source.toList).length := by
      have := (has.inside window).1
      omega
    rw [ContextWindow.numbers, List.getElem?_range' here, Nat.one_mul, Option.map_some, rowOf,
      List.getElem?_eq_getElem below, Option.map_some, List.getD_eq_getElem _ _ below]
  case isFalse outside =>
    rw [List.getElem?_eq_none, Option.map_none]
    rw [ContextWindow.numbers, List.length_range']
    omega

/-- There are not more of them than the window has lines. -/
lemma length_of_cut? (cut : cut? source line window = some shown) :
    shown.lines.length ≤ window.before.toNat + window.after.toNat + 1 := by
  rw [lines_of_cut? cut, List.length_map, ContextWindow.numbers, List.length_range',
    ContextWindow.first, ContextWindow.last]
  omega

/-- The numbers of the rows are those of the window. -/
lemma numbers_of_cut? (cut : cut? source line window = some shown) :
    shown.lines.map (fun row => row.number.toNat) =
      window.numbers line.toNat (Text.lines source.toList).length := by
  have has : HasLine source line := hasLine_of_cut? cut
  rw [lines_of_cut? cut, List.map_map]
  conv_rhs => rw [← List.map_id (window.numbers _ _)]
  apply List.map_congr_left
  intro number mem
  have fits : number < UInt32.size := Nat.lt_of_le_of_lt (has.number_le window mem).2 has.numbered
  exact UInt32.toNat_ofNat_of_lt' fits

/-- A row has the text of the line that has its number. -/
lemma text_of_cut? (cut : cut? source line window = some shown) {row : ContextLine}
    (mem : row ∈ shown.lines) :
    (Text.lines source.toList)[row.number.toNat - 1]? = some row.text.toList := by
  have has : HasLine source line := hasLine_of_cut? cut
  rw [lines_of_cut? cut] at mem
  obtain ⟨number, inside, rfl⟩ := List.mem_map.mp mem
  obtain ⟨positive, le_count⟩ := has.number_le window inside
  have same : (rowOf (Text.lines source.toList) line number).number.toNat = number :=
    UInt32.toNat_ofNat_of_lt' (Nat.lt_of_le_of_lt le_count has.numbered)
  have below : number - 1 < (Text.lines source.toList).length := by omega
  rw [same, List.getElem?_eq_getElem below]
  simp only [rowOf, List.getD_eq_getElem _ _ below, String.toList_ofList]

/-- The marked row is the only one, and that of the line that was asked for. -/
lemma filter_of_cut? (cut : cut? source line window = some shown) :
    shown.lines.filter ContextLine.isError =
      [rowOf (Text.lines source.toList) line line.toNat] := by
  have has : HasLine source line := hasLine_of_cut? cut
  obtain ⟨_, first_le, le_last⟩ := has.inside window
  have once : (window.numbers line.toNat (Text.lines source.toList).length).count line.toNat = 1 :=
    List.count_eq_one_of_mem List.nodup_range' ((has.mem_numbers window).mpr ⟨first_le, le_last⟩)
  have marks : ContextLine.isError ∘ rowOf (Text.lines source.toList) line =
      fun number => number == line.toNat := rfl
  rw [lines_of_cut? cut, List.filter_map, marks, List.filter_beq, once]
  rfl

end CodeContext

end LuaHost
