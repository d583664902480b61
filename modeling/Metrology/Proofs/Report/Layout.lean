import Mathlib.Tactic.Lemma
import Metrology.Report.Csv
import Metrology.Report.Text

/-!
# Layout of reports

A text report is its sections one after another, each of them a title, as many equals signs as the
title has characters, the lines and a blank line. A comma-separated report is a heading and a row
for each measurement, with two fields.
-/

namespace Metrology.Report

/-! ### Sections -/

/-- A field as it is written: as it is, or between quotes if a comma, a quote or a line feed is in
it, with the quotes doubled. -/
inductive IsField (s : String) : List Char → Prop where
  | plain (h : ∀ c ∈ s.toList, needsQuotes c = false) : IsField s s.toList
  | quoted {c : Char} (hc : c ∈ s.toList) (hquotes : needsQuotes c = true) :
      IsField s ('"' :: (s.toList.flatMap fun c => if c = '"' then [c, c] else [c]) ++ ['"'])

/-- The text consists of rows with two fields each. -/
inductive HasRows : List Char → List (String × String) → Prop where
  | nil : HasRows [] []
  | cons {s t : String} {x y rest : List Char} {rows : List (String × String)}
      (hx : IsField s x) (hy : IsField t y) (hrest : HasRows rest rows) :
      HasRows (x ++ ',' :: (y ++ '\n' :: rest)) ((s, t) :: rows)

lemma isField_csvField (s : String) : IsField s (csvField s).toList := by
  unfold csvField
  split
  · next h =>
    obtain ⟨c, hc, hquotes⟩ := List.any_eq_true.mp h
    rw [String.toList_ofList]
    exact .quoted hc hquotes
  · next h => exact .plain (by simpa using h)

lemma HasRows.csvRow {rest : String} {rows : List (String × String)} (s t : String)
    (h : HasRows rest.toList rows) :
    HasRows (csvRow [s, t] ++ rest).toList ((s, t) :: rows) := by
  have hrow : (Report.csvRow [s, t] ++ rest).toList =
      (csvField s).toList ++ ',' :: ((csvField t).toList ++ '\n' :: rest.toList) := by
    simp [Report.csvRow]
  rw [hrow]
  exact .cons (isField_csvField s) (isField_csvField t) h

end Metrology.Report
