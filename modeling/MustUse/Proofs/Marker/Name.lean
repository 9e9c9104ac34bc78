import MustUse.Marker.Name
import MustUse.Text.Blank
import Mathlib.Data.List.TakeWhile

/-!
# Well-formed marker names

A name is well-formed if its parts are words over their alphabets. Reading accepts exactly the
written forms of well-formed names, and a written form holds no white space and no slash.

Main definition: `Name.WellFormed`.

Main statements: `Name.parseChars?_eq_some_iff` and `Name.WellFormed.eq_of_text_eq`.
-/

namespace MustUse
namespace Marker
namespace Name

open Text

/-- The namespace is a word of lower-case letters and digits that starts with a letter, the local
name a word of letters, digits, hyphens and underscores. -/
structure WellFormed (n : Name) : Prop where
  space : ∃ c rest, n.space.toList = c :: rest ∧ ('a' ≤ c ∧ c ≤ 'z') ∧
    ∀ d ∈ rest, ('a' ≤ d ∧ d ≤ 'z') ∨ ('0' ≤ d ∧ d ≤ '9')
  label_ne : n.label ≠ ""
  label : ∀ c ∈ n.label.toList, ('a' ≤ c ∧ c ≤ 'z') ∨ ('A' ≤ c ∧ c ≤ 'Z') ∨ ('0' ≤ c ∧ c ≤ '9') ∨
    c = '-' ∨ c = '_'

theorem wellFormed_iff
    (n : Name) :
    n.WellFormed ↔ n.isWellFormed = true := by
  have hspace : isSpace n.space.toList = true ↔
      ∃ c rest, n.space.toList = c :: rest ∧ ('a' ≤ c ∧ c ≤ 'z') ∧
        ∀ d ∈ rest, ('a' ≤ d ∧ d ≤ 'z') ∨ ('0' ≤ d ∧ d ≤ '9') := by
    cases n.space.toList with
    | nil => simp [isSpace]
    | cons c rest => simp [isSpace, isLowerLetter, isDigit, and_assoc]
  have hlabel : isLabel n.label.toList = true ↔
      n.label ≠ "" ∧ ∀ c ∈ n.label.toList, ('a' ≤ c ∧ c ≤ 'z') ∨ ('A' ≤ c ∧ c ≤ 'Z') ∨
        ('0' ≤ c ∧ c ≤ '9') ∨ c = '-' ∨ c = '_' := by
    simp [isLabel, isLowerLetter, isUpperLetter, isDigit, or_assoc]
  rw [isWellFormed, Bool.and_eq_true, hspace, hlabel]
  exact ⟨fun h => ⟨h.space, h.label_ne, h.label⟩, fun h => ⟨h.1, h.2.1, h.2.2⟩⟩

instance : DecidablePred WellFormed := fun n =>
  decidable_of_iff _ (wellFormed_iff n).symm

theorem toList_text
    (n : Name) :
    n.text.toList = n.space.toList ++ ':' :: n.label.toList := by
  simp [text]

/-- A visible character of ASCII other than a slash. -/
def IsPlain (c : Char) : Prop :=
  0x21 ≤ c.toNat ∧ c.toNat ≤ 0x7E ∧ c ≠ '/'

theorem isPlain_of_between
    {lo hi c : Char} (h : lo ≤ c ∧ c ≤ hi) (hlo : 0x30 ≤ lo.toNat) (hhi : hi.toNat ≤ 0x7E) :
    IsPlain c := by
  have hrange : lo.toNat ≤ c.toNat ∧ c.toNat ≤ hi.toNat := h
  refine ⟨by omega, by omega, ?_⟩
  rintro rfl
  have hslash : ('/' : Char).toNat = 0x2F := rfl
  omega

theorem IsPlain.not_isBlank
    {c : Char} (h : IsPlain c) :
    isBlank c = false := by
  obtain ⟨hlo, hhi, _⟩ := h
  simp only [isBlank, blankRanges, List.any_cons, List.any_nil, Bool.or_eq_false_iff,
    Bool.and_eq_false_iff, decide_eq_false_iff_not, and_true]
  omega

/-- A written name consists of plain characters. -/
theorem WellFormed.isPlain_of_mem_text
    {n : Name} (h : n.WellFormed) {c : Char} (hc : c ∈ n.text.toList) :
    IsPlain c := by
  obtain ⟨first, rest, hspace, hfirst, hrest⟩ := h.space
  rw [toList_text, hspace, List.mem_append, List.mem_cons, List.mem_cons] at hc
  rcases hc with (rfl | hc) | rfl | hc
  · exact isPlain_of_between hfirst (by decide) (by decide)
  · rcases hrest c hc with hlower | hdigit
    · exact isPlain_of_between hlower (by decide) (by decide)
    · exact isPlain_of_between hdigit (by decide) (by decide)
  · unfold IsPlain
    decide
  · rcases h.label c hc with hlower | hupper | hdigit | rfl | rfl
    · exact isPlain_of_between hlower (by decide) (by decide)
    · exact isPlain_of_between hupper (by decide) (by decide)
    · exact isPlain_of_between hdigit (by decide) (by decide)
    · unfold IsPlain
      decide
    · unfold IsPlain
      decide

theorem WellFormed.not_isBlank_of_mem_text
    {n : Name} (h : n.WellFormed) {c : Char} (hc : c ∈ n.text.toList) :
    isBlank c = false :=
  (h.isPlain_of_mem_text hc).not_isBlank

theorem text_ne_nil
    (n : Name) :
    n.text.toList ≠ [] := by
  simp [toList_text]

theorem WellFormed.not_isBlank_of_head?
    {n : Name} (h : n.WellFormed) (rest : List Char) {c : Char}
    (hc : (n.text.toList ++ rest).head? = some c) :
    isBlank c = false := by
  obtain ⟨first, word, hword⟩ := List.exists_cons_of_ne_nil n.text_ne_nil
  rw [hword] at hc
  cases hc
  exact h.not_isBlank_of_mem_text (hword ▸ List.mem_cons_self)

theorem WellFormed.takeWhile_isBlank_text_append
    {n : Name} (h : n.WellFormed) (rest : List Char) :
    (n.text.toList ++ rest).takeWhile isBlank = [] := by
  obtain ⟨c, word, hword⟩ := List.exists_cons_of_ne_nil n.text_ne_nil
  have hc : isBlank c = false := h.not_isBlank_of_mem_text (hword ▸ List.mem_cons_self)
  simp [hword, hc]

/-- A written name ends where white space begins. -/
theorem WellFormed.takeWhile_text_append
    {n : Name} (h : n.WellFormed) {rest : List Char}
    (hrest : ∀ c, rest.head? = some c → isBlank c = true) :
    (n.text.toList ++ rest).takeWhile (!isBlank ·) = n.text.toList := by
  have hall : ∀ c ∈ n.text.toList, (!isBlank c) = true := by
    intro c hc
    rw [h.not_isBlank_of_mem_text hc]
    rfl
  have hstop : rest.takeWhile (!isBlank ·) = [] := by
    cases rest with
    | nil => rfl
    | cons c rest => simp [hrest c rfl]
  rw [List.takeWhile_append_of_pos hall, hstop, List.append_nil]

theorem WellFormed.not_mem_space
    {n : Name} (h : n.WellFormed) {c : Char}
    (hc : ¬ (('a' ≤ c ∧ c ≤ 'z') ∨ ('0' ≤ c ∧ c ≤ '9'))) :
    c ∉ n.space.toList := by
  obtain ⟨first, rest, hspace, hfirst, hrest⟩ := h.space
  rw [hspace, List.mem_cons]
  rintro (rfl | hmem)
  · exact hc (Or.inl hfirst)
  · exact hc (hrest c hmem)

theorem WellFormed.colon_not_mem_space
    {n : Name} (h : n.WellFormed) :
    ':' ∉ n.space.toList :=
  h.not_mem_space (by decide)

theorem WellFormed.colon_not_mem_label
    {n : Name} (h : n.WellFormed) :
    ':' ∉ n.label.toList := by
  intro hmem
  exact absurd (h.label ':' hmem) (by decide)

theorem WellFormed.comma_not_mem_text
    {n : Name} (h : n.WellFormed) :
    ',' ∉ n.text.toList := by
  rw [toList_text, List.mem_append, List.mem_cons]
  rintro (hspace | hcolon | hlabel)
  · exact h.not_mem_space (by decide) hspace
  · exact absurd hcolon (by decide)
  · exact absurd (h.label ',' hlabel) (by decide)

/-- The only colon in the written form of a well-formed name is the one between its parts, so no
other name has this form, however it is spelt. -/
theorem WellFormed.eq_of_text_eq
    {n m : Name} (h : n.WellFormed) (htext : m.text = n.text) :
    m = n := by
  have hchars : m.space.toList ++ ':' :: m.label.toList =
      n.space.toList ++ ':' :: n.label.toList := by
    rw [← toList_text, ← toList_text, htext]
  obtain ⟨hspace, hlabel⟩ : m.space.toList = n.space.toList ∧ m.label.toList = n.label.toList := by
    rcases List.append_eq_append_iff.mp hchars with
      ⟨between, hspace, hrest⟩ | ⟨between, hspace, hrest⟩
    · cases between with
      | nil => simpa [hspace] using hrest
      | cons c between =>
          obtain ⟨rfl, _⟩ := List.cons.inj hrest
          refine absurd ?_ h.colon_not_mem_space
          simp [hspace]
    · cases between with
      | nil => simpa [hspace] using hrest.symm
      | cons c between =>
          obtain ⟨_, hlabel⟩ := List.cons.inj hrest
          refine absurd ?_ h.colon_not_mem_label
          simp [hlabel]
  cases m
  cases n
  rw [mk.injEq]
  exact ⟨String.toList_injective hspace, String.toList_injective hlabel⟩

/-- Reading accepts exactly the written forms of well-formed names. -/
theorem parseChars?_eq_some_iff
    (word : List Char) (n : Name) :
    parseChars? word = some n ↔ n.WellFormed ∧ word = n.text.toList := by
  constructor
  · intro h
    unfold parseChars? at h
    split at h
    · cases h
    · rename_i space label hcut
      split at h
      · rename_i hparts
        cases h
        rw [wellFormed_iff, toList_text]
        simp only [isWellFormed, String.toList_ofList]
        exact ⟨hparts, (cut_eq_some hcut).1⟩
      · cases h
  · rintro ⟨hn, rfl⟩
    have hparts : (isSpace n.space.toList && isLabel n.label.toList) = true :=
      (wellFormed_iff n).mp hn
    rw [parseChars?, toList_text, cut_append hn.colon_not_mem_space]
    simp only [hparts, if_true, String.ofList_toList]

theorem parse?_eq_some_iff
    (s : String) (n : Name) :
    parse? s = some n ↔ n.WellFormed ∧ n.text = s := by
  rw [parse?, parseChars?_eq_some_iff, String.toList_inj, eq_comm (a := s)]

end Name
end Marker
end MustUse
