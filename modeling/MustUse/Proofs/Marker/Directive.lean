import MustUse.Marker.Directive
import MustUse.Proofs.Marker.Name
import MustUse.Proofs.Text.Element
import MustUse.Proofs.Text.Occurrence

/-!
# The grammar of directives

A directive is a line comment put together from white space, a well-formed name and a tail, and it
is so in one way only. Reading accepts these comments and no others, and takes the arguments from
the tail.

Main definitions:

- `Directive.Parts`: the parts of a directive, and the comment they make up;
- `Directive.Parts.HasArgs`: the arguments in the tail.

Main statements:

- `Directive.Parts.parse?_text`: how a comment made up from parts is read;
- `Directive.directives_eq_grammar`: what is read as a directive, and its only decomposition.
-/

namespace MustUse
namespace Marker
namespace Directive

open Text

/-- The parts of a directive: white space, the name, and a tail that is white space or begins with a
space. -/
@[ext]
structure Parts where
  lead : String
  name : Name
  tail : String
  lead_blank : ∀ c ∈ lead.toList, isBlank c = true
  wellFormed : name.WellFormed
  tail_ok : (∀ c ∈ tail.toList, isBlank c = true) ∨ tail.toList.head? = some ' '

namespace Parts

/-- The comment that is made up from the parts. -/
def text (p : Parts) : String :=
  "//" ++ p.lead ++ p.name.text ++ p.tail

/-- The arguments in a tail: none if the tail is white space, otherwise what stands before the first
further comment, without the white space around it. -/
def HasArgs (p : Parts) (args : String) : Prop :=
  (∀ c ∈ p.tail.toList, isBlank c = true) ∧ args = "" ∨
    p.tail.toList.head? = some ' ' ∧
      ∃ part, IsBefore " //".toList p.tail.toList part ∧ IsTrimmed part args.toList

end Parts

theorem slash_not_mem_of_blank
    {blanks : List Char} (h : ∀ c ∈ blanks, isBlank c = true) :
    '/' ∉ blanks := by
  intro hmem
  exact absurd (h '/' hmem) (by decide)

/-- No further comment begins in a text without slashes, except at a space at its end. -/
theorem before_mark_append
    {left right : List Char} (hslash : '/' ∉ left)
    (hend : left.getLast? ≠ some ' ' ∨ right.head? ≠ some '/') :
    before " //".toList (left ++ right) = left ++ before " //".toList right := by
  apply before_append
  rintro front rest rfl hrest hprefix
  obtain ⟨c, rest, rfl⟩ := List.exists_cons_of_ne_nil hrest
  obtain ⟨more, hmore⟩ := hprefix
  have hmark : ' ' :: '/' :: '/' :: more = c :: (rest ++ right) := hmore
  rw [List.cons.injEq] at hmark
  obtain ⟨rfl, hmark⟩ := hmark
  cases rest with
  | nil =>
      rcases hend with hend | hend
      · exact hend (by simp)
      · rw [List.nil_append] at hmark
        exact hend (by rw [← hmark]; rfl)
  | cons d rest =>
      rw [List.cons_append, List.cons.injEq] at hmark
      exact hslash (by simp [← hmark.1])

theorem headAndRest_eq_iff
    (text head rest : List Char) :
    headAndRest text = (head, rest) ↔
      ' ' ∉ head ∧ (text = head ∧ rest = [] ∨ text = head ++ ' ' :: rest) := by
  unfold headAndRest
  constructor
  · intro h
    cases hcut : cut ' ' text with
    | none =>
        rw [hcut, Prod.mk.injEq] at h
        obtain ⟨rfl, rfl⟩ := h
        exact ⟨cut_eq_none_iff.mp hcut, Or.inl ⟨rfl, rfl⟩⟩
    | some parts =>
        simp only [hcut] at h
        subst h
        obtain ⟨htext, hhead⟩ := cut_eq_some hcut
        exact ⟨hhead, Or.inr htext⟩
  · rintro ⟨hhead, ⟨rfl, rfl⟩ | rfl⟩
    · rw [cut_eq_none_iff.mpr hhead]
    · rw [cut_append hhead]

theorem parseBody?_eq_some_iff
    (body : List Char) (d : Directive) :
    parseBody? body = some d ↔
      d.name.WellFormed ∧
        ∃ rest, headAndRest (before " //".toList (trim body)) = (d.name.text.toList, rest) ∧
          d.args = String.ofList (trim rest) := by
  unfold parseBody?
  obtain ⟨head, rest⟩ := headAndRest (before " //".toList (trim body))
  obtain ⟨name, args⟩ := d
  constructor
  · intro h
    cases hname : Name.parseChars? head with
    | none => simp [hname] at h
    | some n =>
        simp only [hname, Option.some.injEq, mk.injEq] at h
        obtain ⟨rfl, rfl⟩ := h
        obtain ⟨hn, rfl⟩ := (Name.parseChars?_eq_some_iff head n).mp hname
        exact ⟨hn, rest, rfl, rfl⟩
  · rintro ⟨hn, rest', hparts, rfl⟩
    cases hparts
    have hname := (Name.parseChars?_eq_some_iff _ name).mpr ⟨hn, rfl⟩
    simp only [hname]

theorem parse?_slashes_append
    (body : String) :
    parse? ("//" ++ body) = parseBody? body.toList := by
  simp [parse?, after?]

theorem exists_body_of_parse?
    {comment : String} {d : Directive} (h : parse? comment = some d) :
    ∃ body : String, comment = "//" ++ body ∧ parseBody? body.toList = some d := by
  unfold parse? after? at h
  by_cases hstart : "//".toList <+: comment.toList
  · obtain ⟨body, hbody⟩ := hstart
    rw [← hbody] at h
    refine ⟨String.ofList body, ?_, ?_⟩
    · apply String.toList_injective
      simp [← hbody]
    · simpa using h
  · rw [← List.isPrefixOf_iff_prefix] at hstart
    rw [if_neg hstart] at h
    cases h

namespace Parts

variable (p : Parts)

theorem text_eq :
    p.text = "//" ++ (p.lead ++ p.name.text ++ p.tail) := by
  simp [text, String.append_assoc]

theorem toList_text :
    p.text.toList = '/' :: '/' :: (p.lead.toList ++ (p.name.text.toList ++ p.tail.toList)) := by
  simp [text]

/-- What is trimmed behind the white space at the start. -/
theorem trim_body :
    trim (p.lead ++ p.name.text ++ p.tail).toList =
      trimEnd (p.name.text.toList ++ p.tail.toList) := by
  rw [String.toList_append, String.toList_append, List.append_assoc, trim,
    trimStart_append p.lead_blank fun _ => p.wellFormed.not_isBlank_of_head? p.tail.toList]

/-- The tail that is white space is trimmed away. -/
theorem trim_body_of_blank
    (htail : ∀ c ∈ p.tail.toList, isBlank c = true) :
    trim (p.lead ++ p.name.text ++ p.tail).toList = p.name.text.toList := by
  rw [p.trim_body, trimEnd_append htail]
  intro c hc
  exact p.wellFormed.not_isBlank_of_mem_text (List.mem_of_getLast? hc)

theorem before_mark_name_append
    (rest : List Char) :
    before " //".toList (p.name.text.toList ++ rest) =
      p.name.text.toList ++ before " //".toList rest := by
  apply before_mark_append
  · intro hmem
    exact (p.wellFormed.isPlain_of_mem_text hmem).2.2 rfl
  · left
    intro hlast
    exact absurd (p.wellFormed.not_isBlank_of_mem_text (List.mem_of_getLast? hlast)) (by decide)

theorem trim_before_mark_of_blank
    (hblank : ∀ c ∈ p.tail.toList, isBlank c = true) :
    trim (before " //".toList p.tail.toList) = [] := by
  apply trim_eq_nil
  intro c hc
  obtain ⟨more, hmore, _⟩ := exists_append_of_before " //".toList p.tail.toList
  exact hblank c (hmore ▸ List.mem_append_left more hc)

/-- What stands before the first further comment in the trimmed text is the name and what stands
before it in the tail, at most without some white space at the end. -/
theorem exists_part
    (hspace : p.tail.toList.head? = some ' ') :
    ∃ part trail, (∀ c ∈ trail, isBlank c = true) ∧
      before " //".toList (trim (p.lead ++ p.name.text ++ p.tail).toList) =
        p.name.text.toList ++ part ∧
      before " //".toList p.tail.toList = part ++ trail ∧
      (part = [] ∨ ∃ rest, part = ' ' :: rest) := by
  rw [p.trim_body]
  obtain ⟨trail, htext, htrail⟩ := eq_trimEnd_append (p.name.text.toList ++ p.tail.toList)
  have hmark : ∃ front c, " //".toList = front ++ [c] ∧ c ∉ trail :=
    ⟨[' ', '/'], '/', rfl, slash_not_mem_of_blank htrail⟩
  obtain ⟨rest, hrest, hcases⟩ := before_append_trail hmark
    (trimEnd (p.name.text.toList ++ p.tail.toList))
  have hblank : ∀ c ∈ rest, isBlank c = true := by
    rcases hcases with rfl | rfl
    · simp
    · exact htrail
  rw [← htext, p.before_mark_name_append, List.append_eq_append_iff] at hrest
  obtain ⟨more, htail, _⟩ := exists_append_of_before " //".toList p.tail.toList
  rcases hrest with ⟨part, hbody, hpart⟩ | ⟨common, hname, hcommon⟩
  · refine ⟨part, rest, hblank, hbody, hpart, ?_⟩
    cases part with
    | nil => exact Or.inl rfl
    | cons c part =>
        rw [htail, hpart] at hspace
        cases hspace
        exact Or.inr ⟨part, rfl⟩
  · cases common with
    | nil => exact ⟨[], rest, hblank, by simpa using hname.symm, hcommon.symm, Or.inl rfl⟩
    | cons c common =>
        have hmem : c ∈ p.name.text.toList := by
          rw [hname]
          exact List.mem_append_right _ List.mem_cons_self
        have hc := hblank c (by simp [hcommon])
        rw [p.wellFormed.not_isBlank_of_mem_text hmem] at hc
        cases hc

/-- A comment that is made up from parts is read as a directive with their name and the arguments in
their tail. -/
theorem parse?_text :
    parse? p.text =
      some ⟨p.name, String.ofList (trim (before " //".toList p.tail.toList))⟩ := by
  rw [p.text_eq, parse?_slashes_append, parseBody?_eq_some_iff]
  refine ⟨p.wellFormed, ?_⟩
  have hname : ' ' ∉ p.name.text.toList := by
    intro hmem
    exact absurd (p.wellFormed.not_isBlank_of_mem_text hmem) (by decide)
  simp only [headAndRest_eq_iff]
  rcases p.tail_ok with hblank | hspace
  · have hbefore : before " //".toList (trim (p.lead ++ p.name.text ++ p.tail).toList) =
        p.name.text.toList := by
      rw [p.trim_body_of_blank hblank]
      simpa [before] using p.before_mark_name_append []
    rw [hbefore, p.trim_before_mark_of_blank hblank]
    exact ⟨[], ⟨hname, Or.inl ⟨rfl, rfl⟩⟩, rfl⟩
  · obtain ⟨part, trail, htrail, hbody, htail, hpart⟩ := p.exists_part hspace
    have hargs : trim (before " //".toList p.tail.toList) = trim part := by
      rw [htail]
      exact trim_append_right htrail part
    rw [hbody, hargs]
    rcases hpart with rfl | ⟨rest, rfl⟩
    · exact ⟨[], ⟨hname, Or.inl ⟨by simp, rfl⟩⟩, rfl⟩
    · refine ⟨rest, ⟨hname, Or.inr rfl⟩, congrArg String.ofList ?_⟩
      have hblank : ∀ c ∈ [' '], isBlank c = true := List.forall_mem_singleton.mpr (by decide)
      exact trim_append_left hblank rest

/-- Every tail has its arguments. -/
theorem hasArgs_iff
    (args : String) :
    p.HasArgs args ↔ String.ofList (trim (before " //".toList p.tail.toList)) = args := by
  have hmark : " //".toList ≠ [] := by decide
  have hargs : (∃ part, IsBefore " //".toList p.tail.toList part ∧ IsTrimmed part args.toList) ↔
      String.ofList (trim (before " //".toList p.tail.toList)) = args := by
    simp only [← before_eq_iff hmark, ← trim_eq_iff, exists_eq_left']
    constructor
    · intro h
      rw [h, String.ofList_toList]
    · rintro rfl
      exact (String.toList_ofList).symm
  unfold HasArgs
  rw [hargs]
  constructor
  · rintro (⟨hblank, rfl⟩ | ⟨_, hpart⟩)
    · rw [p.trim_before_mark_of_blank hblank]
    · exact hpart
  · intro hpart
    rcases p.tail_ok with hblank | hspace
    · rw [p.trim_before_mark_of_blank hblank] at hpart
      exact Or.inl ⟨hblank, hpart.symm⟩
    · exact Or.inr ⟨hspace, hpart⟩

theorem takeWhile_body :
    (p.lead.toList ++ (p.name.text.toList ++ p.tail.toList)).takeWhile isBlank =
      p.lead.toList := by
  rw [List.takeWhile_append_of_pos p.lead_blank, p.wellFormed.takeWhile_isBlank_text_append,
    List.append_nil]

theorem isBlank_of_head?_tail
    {c : Char} (hc : p.tail.toList.head? = some c) :
    isBlank c = true := by
  rcases p.tail_ok with hblank | hspace
  · exact hblank c (List.mem_of_head? hc)
  · rw [hspace] at hc
    cases hc
    decide

/-- A comment is made up from parts in one way only. -/
theorem text_injective :
    Function.Injective text := by
  intro p q h
  have hname : p.name = q.name := by
    have hparse := congrArg parse? h
    rw [p.parse?_text, q.parse?_text] at hparse
    exact congrArg Directive.name (Option.some.inj hparse)
  have hbody : p.lead.toList ++ (p.name.text.toList ++ p.tail.toList) =
      q.lead.toList ++ (q.name.text.toList ++ q.tail.toList) := by
    have hchars := congrArg String.toList h
    rw [p.toList_text, q.toList_text] at hchars
    simpa using hchars
  have hlead : p.lead.toList = q.lead.toList := by
    rw [← p.takeWhile_body, hbody, q.takeWhile_body]
  rw [hlead, hname, List.append_cancel_left_eq, List.append_cancel_left_eq] at hbody
  exact Parts.ext (String.toList_injective hlead) hname (String.toList_injective hbody)

end Parts

/-- Everything that is read as a directive is made up from parts. -/
theorem exists_parts_of_parse?
    {comment : String} {d : Directive} (h : parse? comment = some d) :
    ∃ p : Parts, p.text = comment ∧ p.name = d.name := by
  obtain ⟨body, rfl, hbody⟩ := exists_body_of_parse? h
  obtain ⟨hname, rest, hhead, _⟩ := (parseBody?_eq_some_iff _ d).mp hbody
  obtain ⟨_, hparts⟩ := (headAndRest_eq_iff _ _ _).mp hhead
  obtain ⟨⟨lead, trail, htext, hlead, htrail⟩, _⟩ := isTrimmed_trim body.toList
  obtain ⟨more, hmore, hcases⟩ := exists_append_of_before " //".toList (trim body.toList)
  have htail : ∃ tail, trim body.toList = d.name.text.toList ++ tail ∧
      (tail = [] ∨ tail.head? = some ' ') := by
    rcases hparts with ⟨hall, _⟩ | hsome
    · refine ⟨more, by rw [← hall, ← hmore], hcases.imp_right ?_⟩
      rintro ⟨after, rfl⟩
      rfl
    · refine ⟨' ' :: rest ++ more, ?_, Or.inr rfl⟩
      rw [hmore, hsome, List.append_assoc]
  obtain ⟨tail, htrim, hhead⟩ := htail
  refine ⟨⟨String.ofList lead, d.name, String.ofList (tail ++ trail), ?_, hname, ?_⟩, ?_, rfl⟩
  · simpa using hlead
  · rw [String.toList_ofList]
    rcases hhead with rfl | hhead
    · exact Or.inl htrail
    · exact Or.inr (by rw [List.head?_append, hhead]; rfl)
  · apply String.toList_injective
    rw [htrim] at htext
    rw [Parts.toList_text]
    simp [htext]

/-- A comment is a directive exactly if it is two slashes, white space, a well-formed name and a
tail that is white space or begins with a space; the arguments are those in the tail. Every tail has
its arguments and only these, and every directive can be taken apart in one way only. -/
theorem directives_eq_grammar :
    (∀ (comment : String) (d : Directive),
      parse? comment = some d ↔
        ∃ p : Parts, p.text = comment ∧ p.name = d.name ∧ p.HasArgs d.args) ∧
    (∀ p : Parts, ∃! args, p.HasArgs args) ∧
    Function.Injective Parts.text := by
  refine ⟨fun comment d => ⟨?_, ?_⟩, fun p => ?_, Parts.text_injective⟩
  · intro h
    obtain ⟨p, rfl, _⟩ := exists_parts_of_parse? h
    rw [p.parse?_text, Option.some.injEq] at h
    subst h
    exact ⟨p, rfl, rfl, (p.hasArgs_iff _).mpr rfl⟩
  · rintro ⟨p, rfl, hname, hargs⟩
    rw [p.parse?_text, (p.hasArgs_iff d.args).mp hargs, hname]
  · refine ⟨_, (p.hasArgs_iff _).mpr rfl, ?_⟩
    intro args hargs
    exact ((p.hasArgs_iff args).mp hargs).symm

example : parse? "// retval:mustuse  a //b //c" = some ⟨Name.mustUse, "a"⟩ := by
  decide

end Directive
end Marker
end MustUse
