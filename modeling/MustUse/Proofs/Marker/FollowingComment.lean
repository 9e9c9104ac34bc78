import MustUse.Proofs.Marker.Directive

/-!
# A comment behind a directive

The white space between the name of a directive and a further comment on the same line decides what
becomes of the two. Only a space ends the name, and only a space begins the further comment, though
all white space is trimmed away.

Main definition: `Directive.followed`.

Main statement: `Directive.comment_after_gap`.
-/

namespace MustUse
namespace Marker
namespace Directive

open Text

/-- The comment that consists of a name, a gap and a further comment. -/
def followed (name : Name) (gap rest : String) : String :=
  "//" ++ name.text ++ gap ++ "//" ++ rest

section Gap

variable {gap : List Char} (hblank : ∀ c ∈ gap, isBlank c = true)
include hblank

/-- A space at the end of a gap begins the further comment, and nothing is left of the gap. -/
theorem trim_before_mark_of_last_space
    (hlast : gap.getLast? = some ' ') (rest : List Char) :
    trim (before " //".toList (gap ++ '/' :: '/' :: rest)) = [] := by
  obtain ⟨front, rfl⟩ := List.getLast?_eq_some_iff.mp hlast
  have hfront : ∀ c ∈ front, isBlank c = true := fun c hc =>
    hblank c (List.mem_append_left [' '] hc)
  have hright : (' ' :: '/' :: '/' :: rest).head? ≠ some '/' := by simp
  rw [List.append_assoc, List.singleton_append,
    before_mark_append (slash_not_mem_of_blank hfront) (Or.inr hright), trim_append_left hfront]
  simp [before]

/-- After other white space than a space, the slashes count as text. -/
theorem exists_trim_before_mark_of_not_last_space
    (hlast : gap.getLast? ≠ some ' ') (rest : List Char) :
    ∃ more, trim (before " //".toList (gap ++ '/' :: '/' :: rest)) = '/' :: '/' :: more := by
  have hbefore : before " //".toList ('/' :: '/' :: rest) =
      '/' :: '/' :: before " //".toList rest := by
    simp [before]
  rw [before_mark_append (slash_not_mem_of_blank hblank) (Or.inl hlast), hbefore,
    trim_append_left hblank]
  generalize before " //".toList rest = text
  have hstart : trimStart ('/' :: '/' :: text) = '/' :: '/' :: text := by
    simp [trimStart, show isBlank '/' = false by decide]
  obtain ⟨trail, htext, htrail⟩ := eq_trimEnd_append ('/' :: '/' :: text)
  have hslash := slash_not_mem_of_blank htrail
  rw [trim, hstart]
  generalize trimEnd ('/' :: '/' :: text) = core at htext
  rcases core with _ | ⟨c, _ | ⟨d, more⟩⟩
  · rw [List.nil_append] at htext
    exact absurd (htext ▸ List.mem_cons_self) hslash
  · rw [List.singleton_append, List.cons.injEq] at htext
    exact absurd (htext.2 ▸ List.mem_cons_self) hslash
  · rw [List.cons_append, List.cons_append, List.cons.injEq, List.cons.injEq] at htext
    obtain ⟨rfl, rfl, _⟩ := htext
    exact ⟨more, rfl⟩

end Gap

section Following

variable {name : Name} (hname : name.WellFormed) {gap : String}
variable (hblank : ∀ c ∈ gap.toList, isBlank c = true)
include hname

/-- After a name, a gap that begins with a space and two slashes are read as a tail. -/
theorem parse?_of_first_space
    (hspace : gap.toList.head? = some ' ') (rest : String) :
    parse? (followed name gap rest) =
      some ⟨name, String.ofList (trim
        (before " //".toList (gap.toList ++ '/' :: '/' :: rest.toList)))⟩ := by
  have htail : (gap ++ "//" ++ rest).toList = gap.toList ++ '/' :: '/' :: rest.toList := by simp
  have hhead : (gap ++ "//" ++ rest).toList.head? = some ' ' := by
    rw [htail, List.head?_append, hspace]
    rfl
  let p : Parts :=
    { lead := "", name := name, tail := gap ++ "//" ++ rest
      lead_blank := by simp
      wellFormed := hname
      tail_ok := Or.inr hhead }
  have htext : p.text = followed name gap rest := by
    simp [p, Parts.text, followed, String.append_assoc]
  rw [← htext, p.parse?_text, htail]

include hblank in
/-- After a name, a gap that begins with other white space than a space spoils the directive. -/
theorem parse?_of_not_first_space
    (hgap : gap ≠ "") (hspace : gap.toList.head? ≠ some ' ') (rest : String) :
    parse? (followed name gap rest) = none := by
  rw [Option.eq_none_iff_forall_ne_some]
  intro d h
  obtain ⟨p, htext, _⟩ := exists_parts_of_parse? h
  have hbody : p.lead.toList ++ (p.name.text.toList ++ p.tail.toList) =
      name.text.toList ++ (gap.toList ++ '/' :: '/' :: rest.toList) := by
    have hchars := congrArg String.toList htext
    rw [p.toList_text] at hchars
    simpa [followed] using hchars
  have hlead : p.lead.toList = [] := by
    rw [← p.takeWhile_body, hbody, hname.takeWhile_isBlank_text_append]
  obtain ⟨c, more, hcons⟩ := List.exists_cons_of_ne_nil (mt String.toList_eq_nil_iff.mp hgap)
  rw [hcons] at hbody hspace hblank
  rw [hlead, List.nil_append] at hbody
  have hword : p.name.text.toList = name.text.toList := by
    have hstop := congrArg (List.takeWhile (!isBlank ·)) hbody
    rwa [p.wellFormed.takeWhile_text_append fun _ => p.isBlank_of_head?_tail,
      hname.takeWhile_text_append] at hstop
    rintro d hd
    cases hd
    exact hblank c List.mem_cons_self
  rw [hword, List.append_cancel_left_eq] at hbody
  rcases p.tail_ok with htail | htail
  · have hslash := htail '/' (by simp [hbody])
    exact absurd hslash (by decide)
  · rw [hbody] at htail
    exact hspace htail

end Following

/-- Let a name be followed by white space and then by a further comment. This is a directive without
arguments if the white space begins and ends with a space. If it only begins with one, the further
comment is taken for arguments; otherwise there is no directive. -/
theorem comment_after_gap
    (name : Name) (hname : name.WellFormed) (gap rest : String) (hgap : gap ≠ "")
    (hblank : ∀ c ∈ gap.toList, isBlank c = true) :
    (parse? (followed name gap rest) = some ⟨name, ""⟩ ↔
      gap.toList.head? = some ' ' ∧ gap.toList.getLast? = some ' ') ∧
    (gap.toList.head? = some ' ' → gap.toList.getLast? ≠ some ' ' →
      ∃ more, parse? (followed name gap rest) = some ⟨name, "//" ++ more⟩) ∧
    (gap.toList.head? ≠ some ' ' → parse? (followed name gap rest) = none) := by
  have hargs : gap.toList.head? = some ' ' → gap.toList.getLast? ≠ some ' ' →
      ∃ more, parse? (followed name gap rest) = some ⟨name, "//" ++ more⟩ := by
    intro hfirst hlast
    obtain ⟨more, hmore⟩ :=
      exists_trim_before_mark_of_not_last_space hblank hlast rest.toList
    have hslashes : String.ofList ('/' :: '/' :: more) = "//" ++ String.ofList more := by
      apply String.toList_injective
      simp
    refine ⟨String.ofList more, ?_⟩
    rw [parse?_of_first_space hname hfirst, hmore, hslashes]
  have hnone := fun hfirst => parse?_of_not_first_space hname hblank hgap hfirst rest
  refine ⟨⟨?_, ?_⟩, hargs, hnone⟩
  · intro h
    by_cases hfirst : gap.toList.head? = some ' '
    · refine ⟨hfirst, ?_⟩
      by_contra hlast
      obtain ⟨more, hmore⟩ := hargs hfirst hlast
      rw [h] at hmore
      simp at hmore
    · rw [hnone hfirst] at h
      cases h
  · rintro ⟨hfirst, hlast⟩
    rw [parse?_of_first_space hname hfirst, trim_before_mark_of_last_space hblank hlast]

/-- A gap of spaces and tabs does not always keep a further comment out of the arguments. -/
theorem not_every_gap_begins_comment :
    ¬ ∀ (name : Name) (gap rest : String), name.WellFormed → gap ≠ "" →
      (∀ c ∈ gap.toList, c = ' ' ∨ c = '\t') →
      parse? (followed name gap rest) = some ⟨name, ""⟩ := by
  intro h
  have hread : parse? (followed Name.mustUse " \t" "vt:helper") =
      some ⟨Name.mustUse, "//vt:helper"⟩ := by
    decide
  have hempty := h Name.mustUse " \t" "vt:helper" (by decide) (by decide) (by simp)
  rw [hread] at hempty
  exact absurd hempty (by decide)

/-- Three gaps behind the same name: the comment is left out, taken for arguments, and spoils the
directive. -/
theorem comment_after_gap_mustUse :
    (Name.mustUse.WellFormed ∧
      ∀ gap ∈ [" \t ", " \t", "\t"], gap ≠ "" ∧ ∀ c ∈ gap.toList, isBlank c = true) ∧
    parse? (followed Name.mustUse " \t " "vt:helper") =
      some ⟨Name.mustUse, ""⟩ ∧
    (∃ more, parse? (followed Name.mustUse " \t" "vt:helper") =
      some ⟨Name.mustUse, "//" ++ more⟩) ∧
    parse? (followed Name.mustUse "\t" "vt:helper") = none := by
  have hname : Name.mustUse.WellFormed := by decide
  have hgaps : ∀ gap ∈ [" \t ", " \t", "\t"], gap ≠ "" ∧ ∀ c ∈ gap.toList, isBlank c = true := by
    simp [isBlank, blankRanges]
  have hresult := fun gap hgap =>
    comment_after_gap Name.mustUse hname gap "vt:helper" (hgaps gap hgap).1 (hgaps gap hgap).2
  refine ⟨⟨hname, hgaps⟩, ?_, ?_, ?_⟩
  · exact (hresult " \t " (by decide)).1.mpr (by decide)
  · exact (hresult " \t" (by decide)).2.1 (by decide) (by decide)
  · exact (hresult "\t" (by decide)).2.2 (by decide)

end Directive
end Marker
end MustUse
