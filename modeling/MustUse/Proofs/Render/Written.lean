import MustUse.Proofs.Text.Decimal
import MustUse.Render.Format
import Mathlib.Data.List.Basic

/-!
# Text output and written forms

A diagnostic has a written form of its own, and text output writes a line for it. One goes through
the written form of positions, which leaves a missing column out; the other writes the column in any
case. So both agree where columns are known. A column is missing where a line directive without one
is in force, and there the line of the output has the column zero.

Main definitions:

- `Position.IsResolved`: the file and the line of a position are known;
- `LineTable.IsSound`: the line table of a file that was read;
- `LineTable.TracksColumn`: the columns of a place are known;
- `writtenLines`: the written forms of diagnostics as lines.

Main statements:

- `text_eq_writtenLines_iff`: when both renderings agree;
- `columns_not_always_tracked`: they do not always.
-/

namespace MustUse
namespace Syntax

/-- The file and the line are known. -/
structure Position.IsResolved (p : Position) : Prop where
  file_ne : p.file ≠ ""
  line_pos : 0 < p.line

/-- The line table of a file that was read: its first line starts at its start, and the file and all
line directives have names and count lines from one. -/
structure LineTable.IsSound (t : LineTable) : Prop where
  name_ne : t.name ≠ ""
  zero_mem : 0 ∈ t.lineStarts
  directive_name_ne : ∀ d ∈ t.directives, d.name ≠ ""
  directive_line_pos : ∀ d ∈ t.directives, 0 < d.line

/-- No line directive without a column is in force at `offset`. -/
def LineTable.TracksColumn (t : LineTable) (offset : Nat) : Prop :=
  ∀ d, t.directiveAt? offset = some d → d.column ≠ 0

namespace LineTable

theorem of_directiveAt?_eq_some
    {t : LineTable} {offset : Nat} {d : LineDirective} (h : t.directiveAt? offset = some d) :
    d ∈ t.directives ∧ d.offset ≤ offset := by
  simpa using List.mem_filter.mp (List.mem_of_getLast? h)

theorem line_pos
    {t : LineTable} (h : t.IsSound) (offset : Nat) :
    0 < t.line offset := by
  apply List.length_pos_of_mem (a := 0)
  exact List.mem_filter.mpr ⟨h.zero_mem, by simp⟩

theorem isResolved_position
    {t : LineTable} (h : t.IsSound) (offset : Nat) :
    (t.position offset).IsResolved := by
  have hline := line_pos h offset
  unfold position
  split
  · exact ⟨h.name_ne, by simpa using hline⟩
  · rename_i d hd
    obtain ⟨hmem, _⟩ := of_directiveAt?_eq_some hd
    have hpos := h.directive_line_pos d hmem
    refine ⟨h.directive_name_ne d hmem, ?_⟩
    dsimp only
    omega

/-- A column is zero only where it is not tracked. -/
theorem column_ne_zero_iff
    (t : LineTable) (offset : Nat) :
    (t.position offset).column ≠ 0 ↔ t.TracksColumn offset := by
  unfold TracksColumn position
  split
  · rename_i hd
    simp only [hd, column]
    constructor
    · intro _ d h
      cases h
    · intro _
      omega
  · rename_i d hd
    obtain ⟨_, hbefore⟩ := of_directiveAt?_eq_some hd
    simp only [hd, Option.some.injEq, forall_eq']
    split_ifs with hcolumn hbelow
    · simp [hcolumn]
    · omega
    · simp only [column]
      omega

end LineTable

namespace Position

/-- The written form of a resolved position. -/
theorem text_of_isResolved
    {p : Position} (h : p.IsResolved) :
    p.text = p.file ++ ":" ++ Text.decimal p.line ++
      (if p.column = 0 then "" else ":" ++ Text.decimal p.column) := by
  simp [text, h.file_ne, h.line_pos]

end Position
end Syntax

namespace Render

open Syntax Report

/-- The written forms of diagnostics, each on a line of its own. -/
def writtenLines (ds : List Diagnostic) : String :=
  String.join (ds.map fun d => d.text ++ "\n")

/-- The lines of text output are written one by one. -/
theorem render_text
    (color : Bool) (ds : List Diagnostic) :
    (Format.text color).render ds = text color ds := by
  rfl

theorem location_eq
    {d : Diagnostic} (h : d.position.IsResolved) :
    location d = d.position.text ++ if d.position.column = 0 then ":0" else "" := by
  rw [Position.text_of_isResolved h, location]
  split_ifs with hcolumn
  · rw [hcolumn, Text.decimal_zero]
    simp [String.append_assoc]
  · simp [String.append_assoc]

/-- A line of text output is the written form, with the column zero if there is none. -/
theorem line_eq
    {d : Diagnostic} (h : d.position.IsResolved) :
    line false d =
      d.position.text ++ (if d.position.column = 0 then ":0" else "") ++ ": " ++ d.rule ++ ": " ++
        d.message ++ "\n" := by
  simp only [line, colored, location_eq h, Bool.false_eq_true, if_false]

theorem line_of_column_ne
    {d : Diagnostic} (h : d.position.IsResolved) (hcolumn : d.position.column ≠ 0) :
    line false d = d.text ++ "\n" := by
  rw [line_eq h, if_neg hcolumn, String.append_empty, Diagnostic.text]

theorem length_line
    {d : Diagnostic} (h : d.position.IsResolved) :
    (line false d).length =
      (d.text ++ "\n").length + if d.position.column = 0 then 2 else 0 := by
  rw [line_eq h, Diagnostic.text]
  split_ifs
  · have htwo : (":0" : String).length = 2 := by decide
    simp only [String.length_append, htwo]
    omega
  · simp

/-- Every missing column makes text output longer than the written forms. -/
theorem length_text
    {ds : List Diagnostic} (h : ∀ d ∈ ds, d.position.IsResolved) :
    (text false ds).length =
      (writtenLines ds).length + 2 * ds.countP (·.position.column = 0) := by
  induction ds with
  | nil => rfl
  | cons d ds ih =>
      have hrest := ih fun e he => h e (List.mem_cons_of_mem d he)
      have hline := length_line (h d List.mem_cons_self)
      simp only [text, writtenLines, List.map_cons, String.join_cons, String.length_append,
        List.countP_cons, decide_eq_true_eq] at hrest hline ⊢
      split_ifs at hline ⊢ <;> omega

theorem text_eq_writtenLines
    {ds : List Diagnostic} (h : ∀ d ∈ ds, d.position.IsResolved)
    (hcolumn : ∀ d ∈ ds, d.position.column ≠ 0) :
    text false ds = writtenLines ds := by
  unfold text writtenLines
  congr 1
  apply List.map_congr_left
  intro d hd
  exact line_of_column_ne (h d hd) (hcolumn d hd)

/-- No line is shorter than the written form, so one that is longer shows in the length. -/
theorem text_eq_writtenLines_iff_column
    {ds : List Diagnostic} (h : ∀ d ∈ ds, d.position.IsResolved) :
    text false ds = writtenLines ds ↔ ∀ d ∈ ds, d.position.column ≠ 0 := by
  constructor
  · intro heq
    have hlength := length_text h
    rw [heq] at hlength
    have hnone : ds.countP (·.position.column = 0) = 0 := by omega
    simpa [List.countP_eq_zero] using hnone
  · exact text_eq_writtenLines h

theorem position_ofCall
    {files : FileSet} {place : Place} {table : LineTable}
    (htable : files[place.file]? = some table) (func : String) :
    (Diagnostic.ofCall files (some place) func).position = table.position place.offset := by
  simp [Diagnostic.ofCall, FileSet.position, htable]

/-- Text output without color is the written forms of the diagnostics, each on a line of its own and
with the column zero where it is missing. So it is just the written forms if and only if no position
lacks its column, and the position of a call lacks it exactly where a line directive without a
column is in force. -/
theorem text_eq_writtenLines_iff
    {ds : List Diagnostic} (h : ∀ d ∈ ds, d.position.IsResolved) :
    (Format.text false).render ds =
      String.join (ds.map fun d =>
        d.position.text ++ (if d.position.column = 0 then ":0" else "") ++ ": " ++ d.rule ++
          ": " ++ d.message ++ "\n") ∧
    ((Format.text false).render ds = writtenLines ds ↔ ∀ d ∈ ds, d.position.column ≠ 0) ∧
    ∀ (files : FileSet) (place : Place) (table : LineTable) (func : String),
      files[place.file]? = some table →
      ((Diagnostic.ofCall files (some place) func).position.column ≠ 0 ↔
        table.TracksColumn place.offset) := by
  rw [render_text]
  refine ⟨?_, text_eq_writtenLines_iff_column h, ?_⟩
  · exact congrArg String.join (List.map_congr_left fun d hd => line_eq (h d hd))
  · intro files place table func htable
    rw [position_ofCall htable func]
    exact LineTable.column_ne_zero_iff table place.offset

/-- The line table of a parser that was generated from a grammar: its third line is the tenth line of
the grammar. -/
def parserTable : LineTable :=
  { name := "parser.go", starts := [0, 40, 57]
    directives := [{ offset := 57, name := "gram.y", line := 10, column := 0 }] }

theorem isSound_parserTable :
    parserTable.IsSound := by
  refine ⟨by decide, by decide, by decide, by decide⟩

/-- A call at an offset of that file. -/
def parserCall (offset : Nat) : Diagnostic :=
  .ofCall [parserTable] (some ⟨0, offset⟩) "Get"

theorem isResolved_parserCall
    (offset : Nat) :
    ∀ d ∈ [parserCall offset], d.position.IsResolved := by
  rw [List.forall_mem_singleton, parserCall, position_ofCall rfl]
  exact LineTable.isResolved_position isSound_parserTable offset

/-- Before the line directive both renderings agree, and behind it they do not. -/
theorem text_eq_writtenLines_iff_grammar :
    (∀ d ∈ [parserCall 20], d.position.IsResolved) ∧
    (Format.text false).render [parserCall 20] = writtenLines [parserCall 20] ∧
    (∀ d ∈ [parserCall 60], d.position.IsResolved) ∧
    (Format.text false).render [parserCall 60] ≠ writtenLines [parserCall 60] := by
  refine ⟨isResolved_parserCall 20, ?_, isResolved_parserCall 60, ?_⟩
  · obtain ⟨_, hagree, hcolumn⟩ := text_eq_writtenLines_iff (isResolved_parserCall 20)
    rw [hagree, List.forall_mem_singleton]
    refine (hcolumn _ _ parserTable _ rfl).mpr ?_
    intro d hd
    cases hd
  · obtain ⟨_, hagree, hcolumn⟩ := text_eq_writtenLines_iff (isResolved_parserCall 60)
    rw [ne_eq, hagree, List.forall_mem_singleton]
    intro htracked
    exact (hcolumn _ _ parserTable _ rfl).mp htracked _ rfl rfl

/-- Both renderings do not agree on all resolved positions: the column may be missing. -/
theorem columns_not_always_tracked :
    ¬ ∀ ds : List Diagnostic, (∀ d ∈ ds, d.position.IsResolved) →
      (Format.text false).render ds = writtenLines ds := by
  intro h
  have hresolved := isResolved_parserCall 60
  have hcolumn := (text_eq_writtenLines_iff_column hresolved).mp (h _ hresolved)
  exact hcolumn _ (List.mem_singleton_self _) rfl

end Render
end MustUse
