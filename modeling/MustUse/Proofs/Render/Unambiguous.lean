import MustUse.Proofs.Render.Written
import MustUse.Text.Cut
import Mathlib.Data.List.Forall2

/-!
# Text output can be taken apart

Text output puts the parts of a diagnostic together without any quoting, and the name of a file may
hold colons, spaces and even what looks like the rest of a line. Still nothing is lost. Lines end at
line breaks, and a line is taken apart from its end: the message ends in fixed words, the name of
the function stands behind the last quote before them, and column and line stand behind the last
two colons of what precedes the rule.

Main definition: `Diagnostic.IsPlain`, the diagnostics that fit on a line.

Main statements:

- `line_append_inj`: the first line of a text tells its diagnostic;
- `text_output_unambiguous`: a text tells all its diagnostics.
-/

namespace MustUse
namespace Text

/-- A text tells what stands on either side of the first separator. -/
theorem append_first_inj
    {sep : Char} {a a' b b' : String} (ha : sep ∉ a.toList) (ha' : sep ∉ a'.toList)
    (h : a ++ String.singleton sep ++ b = a' ++ String.singleton sep ++ b') :
    a = a' ∧ b = b' := by
  have hchars : a.toList ++ sep :: b.toList = a'.toList ++ sep :: b'.toList := by
    simpa using congrArg String.toList h
  have hcut := cut_append ha b.toList
  rw [hchars, cut_append ha' b'.toList, Option.some.injEq, Prod.mk.injEq] at hcut
  exact ⟨String.toList_injective hcut.1.symm, String.toList_injective hcut.2.symm⟩

/-- A text tells what stands on either side of the last separator. -/
theorem append_last_inj
    {sep : Char} {a a' b b' : String} (hb : sep ∉ b.toList) (hb' : sep ∉ b'.toList)
    (h : a ++ String.singleton sep ++ b = a' ++ String.singleton sep ++ b') :
    a = a' ∧ b = b' := by
  have hchars : a.toList ++ sep :: b.toList = a'.toList ++ sep :: b'.toList := by
    simpa using congrArg String.toList h
  have hcut := cutLast_append sep a.toList hb
  rw [hchars, cutLast_append sep a'.toList hb', Option.some.injEq, Prod.mk.injEq] at hcut
  exact ⟨String.toList_injective hcut.1.symm, String.toList_injective hcut.2.symm⟩

end Text

namespace Report

/-- The diagnostic of a call that fits on a line: there are no line breaks in the names of the file
and the function, and no quote in the name of the function. -/
structure Diagnostic.IsPlain (d : Diagnostic) : Prop where
  of_call : ∃ files place func, d = .ofCall files place func
  newline_not_mem_file : '\n' ∉ d.position.file.toList
  newline_not_mem_func : '\n' ∉ d.func.toList
  quote_not_mem_func : '\x27' ∉ d.func.toList

/-- The diagnostics show the same file, line, column and function. -/
structure Diagnostic.ShowsSame (d e : Diagnostic) : Prop where
  file : d.position.file = e.position.file
  line : d.position.line = e.position.line
  column : d.position.column = e.position.column
  func : d.func = e.func

end Report

namespace Render

open Report Text

/-- What is written between the location and the name of the function, up to the quote. -/
def lead : String :=
  ": RetVal: The return value of "

/-- What is written behind the name of the function. -/
def trail : String :=
  "' should not be ignored"

/-- A line without its end, put together from the parts that differ. -/
def frame (place func : String) : String :=
  place ++ lead ++ String.singleton '\x27' ++ func ++ trail

theorem line_eq_frame
    {d : Diagnostic} (h : d.IsPlain) :
    line false d = frame (location d) d.func ++ String.singleton '\n' := by
  obtain ⟨files, place, func, hd⟩ := h.of_call
  have hrule : d.rule = "RetVal" := by
    rw [hd]
    rfl
  have hmessage : d.message =
      "The return value of " ++ String.singleton '\x27' ++ d.func ++ trail := by
    rw [hd]
    rfl
  have hlead : lead = ": " ++ "RetVal" ++ ": " ++ "The return value of " := by decide
  rw [line, hrule, hmessage, frame, hlead]
  simp only [colored, String.append_assoc, Bool.false_eq_true, if_false]
  rfl

theorem frame_inj
    {place place' func func' : String} (hfunc : '\x27' ∉ func.toList)
    (hfunc' : '\x27' ∉ func'.toList) (h : frame place func = frame place' func') :
    place = place' ∧ func = func' := by
  have hquoted := (String.append_left_inj trail).mp h
  obtain ⟨hplace, hsame⟩ := append_last_inj hfunc hfunc' hquoted
  exact ⟨(String.append_left_inj lead).mp hplace, hsame⟩

theorem not_mem_decimal
    {c : Char} (hminus : c ≠ '-') (hdigit : ¬ (48 ≤ c.toNat ∧ c.toNat ≤ 57)) (n : Int) :
    c ∉ (decimal n).toList := by
  intro h
  rcases mem_decimal h with h | h
  · exact hminus h
  · exact hdigit h

/-- A location is taken apart at its last two colons, whatever the name of the file is. -/
theorem location_inj
    {d e : Diagnostic} (h : location d = location e) :
    d.position.file = e.position.file ∧ d.position.line = e.position.line ∧
      d.position.column = e.position.column := by
  have hcolon : ∀ n, ':' ∉ (decimal n).toList := not_mem_decimal (by decide) (by decide)
  obtain ⟨hfront, hcolumn⟩ := append_last_inj (hcolon _) (hcolon _) h
  obtain ⟨hfile, hline⟩ := append_last_inj (hcolon _) (hcolon _) hfront
  exact ⟨hfile, decimal_injective hline, decimal_injective hcolumn⟩

theorem newline_not_mem_location
    {d : Diagnostic} (h : '\n' ∉ d.position.file.toList) :
    '\n' ∉ (location d).toList := by
  have hnumeral : ∀ n, '\n' ∉ (decimal n).toList := not_mem_decimal (by decide) (by decide)
  simp [location, h, hnumeral]

theorem newline_not_mem_frame
    {place func : String} (hplace : '\n' ∉ place.toList) (hfunc : '\n' ∉ func.toList) :
    '\n' ∉ (frame place func).toList := by
  have hlead : '\n' ∉ lead.toList := by decide
  have htrail : '\n' ∉ trail.toList := by decide
  simp [frame, hplace, hfunc, hlead, htrail]

/-- The first line of a text tells its diagnostic, and where it ends. -/
theorem line_append_inj
    {d e : Diagnostic} (hd : d.IsPlain) (he : e.IsPlain) {s t : String}
    (h : line false d ++ s = line false e ++ t) :
    d.ShowsSame e ∧ s = t := by
  rw [line_eq_frame hd, line_eq_frame he] at h
  obtain ⟨hframe, hrest⟩ := append_first_inj
    (newline_not_mem_frame (newline_not_mem_location hd.newline_not_mem_file)
      hd.newline_not_mem_func)
    (newline_not_mem_frame (newline_not_mem_location he.newline_not_mem_file)
      he.newline_not_mem_func) h
  obtain ⟨hlocation, hfunc⟩ := frame_inj hd.quote_not_mem_func he.quote_not_mem_func hframe
  obtain ⟨hfile, hline, hcolumn⟩ := location_inj hlocation
  exact ⟨⟨hfile, hline, hcolumn, hfunc⟩, hrest⟩

theorem line_ne_empty
    (color : Bool) (d : Diagnostic) :
    line color d ≠ "" := by
  simp [line]

/-- Line by line, equal texts come from diagnostics that show the same. -/
theorem forall₂_showsSame_of_text_eq
    {ds es : List Diagnostic} (hds : ∀ d ∈ ds, d.IsPlain) (hes : ∀ e ∈ es, e.IsPlain)
    (h : text false ds = text false es) :
    List.Forall₂ Diagnostic.ShowsSame ds es := by
  induction ds generalizing es with
  | nil =>
      cases es with
      | nil => exact List.Forall₂.nil
      | cons e es => simp [text, line_ne_empty] at h
  | cons d ds ih =>
      cases es with
      | nil => simp [text, line_ne_empty] at h
      | cons e es =>
          rw [List.forall_mem_cons] at hds hes
          simp only [text, List.map_cons, String.join_cons] at h
          obtain ⟨hsame, hrest⟩ := line_append_inj hds.1 hes.1 h
          exact List.Forall₂.cons hsame (ih hds.2 hes.2 hrest)

/-- Text output without color is unambiguous. Two lists of diagnostics of calls, without line breaks
in the names of files and functions and without quotes in the names of functions, that give the same
text have the same length and show the same files, lines, columns and functions one by one. -/
theorem text_output_unambiguous
    {ds es : List Diagnostic} (hds : ∀ d ∈ ds, d.IsPlain) (hes : ∀ e ∈ es, e.IsPlain)
    (h : (Format.text false).render ds = (Format.text false).render es) :
    ds.length = es.length ∧ List.Forall₂ Diagnostic.ShowsSame ds es := by
  have hsame : List.Forall₂ Diagnostic.ShowsSame ds es := forall₂_showsSame_of_text_eq hds hes h
  exact ⟨hsame.length_eq, hsame⟩

/-- A diagnostic in a file whose name looks like a line of text output. -/
def oddFileCall : Diagnostic :=
  .ofCall [{ name := "a.go:1:2: RetVal: b.go", starts := [0], directives := [] }] (some ⟨0, 4⟩) "Get"

/-- A diagnostic at another place, where a line directive gives the same position. -/
def movedFileCall : Diagnostic :=
  .ofCall
    [{ name := "c.go", starts := [0]
       directives := [{ offset := 2, name := "a.go:1:2: RetVal: b.go", line := 1, column := 1 }] }]
    (some ⟨0, 6⟩) "Get"

/-- The same text from different diagnostics: they show the same and differ in what is not shown. -/
theorem text_output_unambiguous_odd_file :
    oddFileCall ≠ movedFileCall ∧ oddFileCall.IsPlain ∧ movedFileCall.IsPlain ∧
    (Format.text false).render [oddFileCall] = (Format.text false).render [movedFileCall] ∧
    List.Forall₂ Diagnostic.ShowsSame [oddFileCall] [movedFileCall] := by
  have hodd : oddFileCall.IsPlain :=
    ⟨⟨_, _, _, rfl⟩, by decide, by decide, by decide⟩
  have hmoved : movedFileCall.IsPlain :=
    ⟨⟨_, _, _, rfl⟩, by decide, by decide, by decide⟩
  have hlocation : location oddFileCall = location movedFileCall := by
    have hfile : oddFileCall.position.file = movedFileCall.position.file := by decide
    have hline : oddFileCall.position.line = movedFileCall.position.line := by decide
    have hcolumn : oddFileCall.position.column = movedFileCall.position.column := by decide
    rw [location, location, hfile, hline, hcolumn]
  have htext : (Format.text false).render [oddFileCall] =
      (Format.text false).render [movedFileCall] := by
    rw [render_text, render_text, text, text, List.map_singleton, List.map_singleton,
      line_eq_frame hodd, line_eq_frame hmoved, hlocation]
    rfl
  refine ⟨by decide, hodd, hmoved, htext, ?_⟩
  exact (text_output_unambiguous (List.forall_mem_singleton.mpr hodd)
    (List.forall_mem_singleton.mpr hmoved) htext).2

end Render
end MustUse
