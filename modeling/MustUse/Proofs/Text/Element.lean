import MustUse.Text.Blank
import MustUse.Text.Cut
import Mathlib.Data.List.Basic
import Mathlib.Data.List.TakeWhile

/-!
# Elements of separated lists

The elements of a text with separators, and a text without the white space around it, described by
where they stand in the text. Both descriptions are compared with what splits and trims.

Main definitions:

- `IsElement`: a part of a text between two separators;
- `IsTrimmed`: what remains of a text without the white space around it.

Main statements: `mem_splitOn_iff`, `splitOn_toList_joinWith`, `joinWith_inj` and `trim_eq_iff`.
-/

namespace MustUse
namespace Text

/-- A part of a text that holds no separator and stands between two of them, or between one of them
and an end of the text. -/
def IsElement (sep : Char) (text part : List Char) : Prop :=
  sep ∉ part ∧
    ∃ before after, text = before ++ part ++ after ∧
      (before = [] ∨ before.getLast? = some sep) ∧ (after = [] ∨ after.head? = some sep)

/-- What remains of a text without white space on either side. -/
def IsTrimmed (text core : List Char) : Prop :=
  (∃ lead trail, text = lead ++ core ++ trail ∧
    (∀ c ∈ lead, isBlank c = true) ∧ ∀ c ∈ trail, isBlank c = true) ∧
  (∀ c, core.head? = some c → isBlank c = false) ∧
  ∀ c, core.getLast? = some c → isBlank c = false

section Elements

variable {sep : Char}

/-- What ends with a separator splits off as elements of its own. -/
theorem splitOn_append_of_getLast?
    {before : List Char} (h : before = [] ∨ before.getLast? = some sep) (text : List Char) :
    ∃ parts, (before ++ text).splitOn sep = parts ++ text.splitOn sep := by
  rcases h with rfl | h
  · exact ⟨[], rfl⟩
  · obtain ⟨front, rfl⟩ := List.getLast?_eq_some_iff.mp h
    refine ⟨front.splitOn sep, ?_⟩
    rw [List.append_assoc, List.singleton_append, List.splitOn_append_cons_self]

theorem IsElement.mem_splitOn
    {text part : List Char} (h : IsElement sep text part) :
    part ∈ text.splitOn sep := by
  obtain ⟨hpart, before, after, rfl, hbefore, hafter⟩ := h
  rw [List.append_assoc]
  obtain ⟨parts, hparts⟩ := splitOn_append_of_getLast? hbefore (part ++ after)
  rw [hparts]
  apply List.mem_append_right
  rcases hafter with rfl | hafter
  · rw [List.append_nil, List.splitOn_eq_singleton hpart]
    exact List.mem_singleton_self part
  · obtain ⟨rest, rfl⟩ := List.head?_eq_some_iff.mp hafter
    rw [List.splitOn_append_cons_self, List.splitOn_eq_singleton hpart]
    exact List.mem_cons_self

/-- Behind a separator, elements of the rest are elements of the text. -/
theorem IsElement.append_cons
    {text part : List Char} (h : IsElement sep text part) (front : List Char) :
    IsElement sep (front ++ sep :: text) part := by
  obtain ⟨hpart, before, after, rfl, hbefore, hafter⟩ := h
  refine ⟨hpart, front ++ sep :: before, after, by simp, Or.inr ?_, hafter⟩
  rcases hbefore with rfl | hbefore
  · simp
  · obtain ⟨rest, rfl⟩ := List.getLast?_eq_some_iff.mp hbefore
    rw [← List.cons_append, ← List.append_assoc, List.getLast?_concat]

theorem isElement_of_mem_splitOn
    {text part : List Char} (h : part ∈ text.splitOn sep) :
    IsElement sep text part := by
  by_cases hsep : sep ∈ text
  · obtain ⟨front, rest, htext, hfront⟩ := List.eq_append_cons_of_mem hsep
    have hshorter : rest.length < text.length := by
      rw [htext, List.length_append, List.length_cons]
      omega
    rw [htext, List.splitOn_append_cons_self, List.splitOn_eq_singleton hfront,
      List.singleton_append, List.mem_cons] at h
    rw [htext]
    rcases h with rfl | h
    · exact ⟨hfront, [], sep :: rest, rfl, Or.inl rfl, Or.inr rfl⟩
    · exact (isElement_of_mem_splitOn h).append_cons front
  · rw [List.splitOn_eq_singleton hsep, List.mem_singleton] at h
    subst h
    exact ⟨hsep, [], [], by simp, Or.inl rfl, Or.inl rfl⟩
termination_by text.length

/-- Splitting a text gives its elements. -/
theorem mem_splitOn_iff
    (text part : List Char) :
    part ∈ text.splitOn sep ↔ IsElement sep text part := by
  constructor
  · exact isElement_of_mem_splitOn
  · exact IsElement.mem_splitOn

/-- A joined list has the elements of its entries, those with separators of their own included. -/
theorem splitOn_toList_joinWith
    {entries : List String} (h : entries ≠ []) :
    (joinWith (String.singleton sep) entries).toList.splitOn sep =
      entries.flatMap (·.toList.splitOn sep) := by
  induction entries with
  | nil => exact absurd rfl h
  | cons entry rest ih =>
      cases rest with
      | nil => simp [joinWith]
      | cons next rest =>
          have hchars : (joinWith (String.singleton sep) (entry :: next :: rest)).toList =
              entry.toList ++ sep :: (joinWith (String.singleton sep) (next :: rest)).toList := by
            simp [joinWith]
          rw [hchars, List.splitOn_append_cons_self, List.flatMap_cons,
            ih (List.cons_ne_nil next rest)]

theorem joinWith_append_singleton
    (mark : String) {parts : List String} (h : parts ≠ []) (part : String) :
    joinWith mark (parts ++ [part]) = joinWith mark parts ++ mark ++ part := by
  induction parts with
  | nil => exact absurd rfl h
  | cons first rest ih =>
      cases rest with
      | nil => rfl
      | cons second rest =>
          have hrest := ih (List.cons_ne_nil second rest)
          simp only [List.cons_append, joinWith] at hrest ⊢
          rw [hrest]
          simp only [String.append_assoc]

/-- Entries without separators are the elements of their joined list. -/
theorem splitOn_toList_joinWith_of_not_mem
    {entries : List String} (hne : entries ≠ []) (h : ∀ entry ∈ entries, sep ∉ entry.toList) :
    (joinWith (String.singleton sep) entries).toList.splitOn sep = entries.map String.toList := by
  rw [splitOn_toList_joinWith hne, List.map_eq_flatMap]
  apply List.flatMap_congr
  intro entry hentry
  exact List.splitOn_eq_singleton (h entry hentry)

theorem joinWith_eq_empty_iff
    {entries : List String} (h : ∀ entry ∈ entries, entry ≠ "") :
    joinWith (String.singleton sep) entries = "" ↔ entries = [] := by
  cases entries with
  | nil => simp [joinWith]
  | cons entry rest =>
      have hentry : entry ≠ "" := h entry List.mem_cons_self
      cases rest with
      | nil => simpa [joinWith] using hentry
      | cons next rest => simp [joinWith]

/-- Joining loses nothing, if no entry is empty or has separators. -/
theorem joinWith_inj
    {entries entries' : List String}
    (h : ∀ entry ∈ entries, entry ≠ "" ∧ sep ∉ entry.toList)
    (h' : ∀ entry ∈ entries', entry ≠ "" ∧ sep ∉ entry.toList) :
    joinWith (String.singleton sep) entries = joinWith (String.singleton sep) entries' ↔
      entries = entries' := by
  constructor
  · intro heq
    have hnil : entries = [] ↔ entries' = [] := by
      rw [← joinWith_eq_empty_iff fun entry hentry => (h entry hentry).1, heq,
        joinWith_eq_empty_iff fun entry hentry => (h' entry hentry).1]
    by_cases hne : entries = []
    · rw [hne, hnil.mp hne]
    · have helements :=
        splitOn_toList_joinWith_of_not_mem hne fun entry hentry => (h entry hentry).2
      rw [heq, splitOn_toList_joinWith_of_not_mem (mt hnil.mpr hne)
        fun entry hentry => (h' entry hentry).2] at helements
      exact (List.map_inj_right fun _ _ heq => String.toList_injective heq).mp helements.symm
  · rintro rfl
    rfl

end Elements

section Trimming

theorem trimStart_append
    {lead text : List Char} (hlead : ∀ c ∈ lead, isBlank c = true)
    (htext : ∀ c, text.head? = some c → isBlank c = false) :
    trimStart (lead ++ text) = text := by
  unfold trimStart
  rw [List.dropWhile_append_of_pos hlead]
  cases text with
  | nil => rfl
  | cons c rest =>
      have hc : isBlank c = false := htext c rfl
      simp [hc]

theorem trimEnd_append
    {trail text : List Char} (htrail : ∀ c ∈ trail, isBlank c = true)
    (htext : ∀ c, text.getLast? = some c → isBlank c = false) :
    trimEnd (text ++ trail) = text := by
  have h : trimStart (trail.reverse ++ text.reverse) = text.reverse := by
    apply trimStart_append
    · simpa using htrail
    · simpa using htext
  unfold trimEnd
  unfold trimStart at h
  rw [List.reverse_append, h, List.reverse_reverse]

theorem isBlank_of_head?_trimStart
    (text : List Char) {c : Char} (h : (trimStart text).head? = some c) :
    isBlank c = false := by
  have hhead := List.head?_dropWhile_not isBlank text
  unfold trimStart at h
  rw [h] at hhead
  simpa using hhead

theorem eq_append_trimStart
    (text : List Char) :
    ∃ lead, text = lead ++ trimStart text ∧ ∀ c ∈ lead, isBlank c = true := by
  refine ⟨text.takeWhile isBlank, List.takeWhile_append_dropWhile.symm, ?_⟩
  intro c hc
  exact List.mem_takeWhile_imp hc

theorem eq_trimEnd_append
    (text : List Char) :
    ∃ trail, text = trimEnd text ++ trail ∧ ∀ c ∈ trail, isBlank c = true := by
  obtain ⟨lead, hlead, hblank⟩ := eq_append_trimStart text.reverse
  refine ⟨lead.reverse, ?_, by simpa using hblank⟩
  have h := congrArg List.reverse hlead
  rwa [List.reverse_reverse, List.reverse_append] at h

theorem isTrimmed_trim
    (text : List Char) :
    IsTrimmed text (trim text) := by
  obtain ⟨lead, hlead, hblank⟩ := eq_append_trimStart text
  obtain ⟨trail, htrail, hblank'⟩ := eq_trimEnd_append (trimStart text)
  refine ⟨⟨lead, trail, ?_, hblank, hblank'⟩, ?_, ?_⟩
  · rw [List.append_assoc]
    unfold trim
    rw [← htrail]
    exact hlead
  · intro c hc
    apply isBlank_of_head?_trimStart text
    rw [htrail, List.head?_append]
    unfold trim at hc
    rw [hc]
    rfl
  · intro c hc
    apply isBlank_of_head?_trimStart (trimStart text).reverse
    unfold trim trimEnd at hc
    rwa [List.getLast?_reverse] at hc

/-- Trimming leaves exactly the text without the white space around it. -/
theorem trim_eq_iff
    (text core : List Char) :
    trim text = core ↔ IsTrimmed text core := by
  constructor
  · rintro rfl
    exact isTrimmed_trim text
  · rintro ⟨⟨lead, trail, rfl, hlead, htrail⟩, hhead, hlast⟩
    unfold trim
    by_cases hcore : core = []
    · subst hcore
      have hall : ∀ c ∈ lead ++ [] ++ trail, isBlank c = true := by
        intro c hc
        rw [List.append_nil, List.mem_append] at hc
        rcases hc with hc | hc
        · exact hlead c hc
        · exact htrail c hc
      have hnil : trimStart (lead ++ [] ++ trail) = [] :=
        List.dropWhile_eq_nil_iff.mpr hall
      rw [hnil]
      rfl
    · have hstart : ∀ c, (core ++ trail).head? = some c → isBlank c = false := by
        intro c hc
        obtain ⟨d, rest, rfl⟩ := List.exists_cons_of_ne_nil hcore
        exact hhead c hc
      rw [List.append_assoc, trimStart_append hlead hstart, trimEnd_append htrail hlast]

/-- White space around a text makes no difference. -/
theorem trim_append_append
    {lead trail : List Char} (hlead : ∀ c ∈ lead, isBlank c = true)
    (htrail : ∀ c ∈ trail, isBlank c = true) (text : List Char) :
    trim (lead ++ text ++ trail) = trim text := by
  rw [trim_eq_iff]
  obtain ⟨⟨lead', trail', htext, hlead', htrail'⟩, hends⟩ := isTrimmed_trim text
  refine ⟨⟨lead ++ lead', trail' ++ trail, ?_, ?_, ?_⟩, hends⟩
  · calc lead ++ text ++ trail
        = lead ++ (lead' ++ trim text ++ trail') ++ trail := by rw [← htext]
      _ = lead ++ lead' ++ trim text ++ (trail' ++ trail) := by simp only [List.append_assoc]
  · intro c hc
    exact (List.mem_append.mp hc).elim (hlead c) (hlead' c)
  · intro c hc
    exact (List.mem_append.mp hc).elim (htrail' c) (htrail c)

theorem trim_append_left
    {lead : List Char} (h : ∀ c ∈ lead, isBlank c = true) (text : List Char) :
    trim (lead ++ text) = trim text := by
  have hnil : ∀ c ∈ ([] : List Char), isBlank c = true := by simp
  rw [← trim_append_append h hnil text, List.append_nil]

theorem trim_append_right
    {trail : List Char} (h : ∀ c ∈ trail, isBlank c = true) (text : List Char) :
    trim (text ++ trail) = trim text := by
  have hnil : ∀ c ∈ ([] : List Char), isBlank c = true := by simp
  rw [← trim_append_append hnil h text, List.nil_append]

theorem trim_eq_nil
    {text : List Char} (h : ∀ c ∈ text, isBlank c = true) :
    trim text = [] := by
  rw [← List.append_nil text, trim_append_left h, trim_nil]

end Trimming

end Text
end MustUse
