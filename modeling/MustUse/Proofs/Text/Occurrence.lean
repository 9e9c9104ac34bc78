import MustUse.Text.Blank
import MustUse.Text.Cut

/-!
# The first occurrence of a word

What stands before the first occurrence of a word is described by where the word occurs, and
compared with the search from the left.

Main definition: `IsBefore`.

Main statements:

- `before_eq_iff`: the search finds the first occurrence;
- `before_append`: it goes on through what no occurrence begins in;
- `before_append_trail`: it finds nothing more behind the last place where the word can end.
-/

namespace MustUse
namespace Text

/-- What stands before the first occurrence of a word in a text; all of the text, if the word does
not occur in it. -/
def IsBefore (word text part : List Char) : Prop :=
  ¬ word <:+: text ∧ part = text ∨
    (∃ rest, text = part ++ word ++ rest) ∧
      ∀ front rest, text = front ++ word ++ rest → part.length ≤ front.length

section Search

variable {word : List Char} (hword : word ≠ [])
include hword

theorem isBefore_before
    (text : List Char) :
    IsBefore word text (before word text) := by
  induction text with
  | nil =>
      refine Or.inl ⟨?_, rfl⟩
      rwa [List.infix_nil]
  | cons c text ih =>
      by_cases hstart : word <+: c :: text
      · have hbefore : before word (c :: text) = [] := by
          simp [before, List.isPrefixOf_iff_prefix.mpr hstart]
        obtain ⟨rest, hrest⟩ := hstart
        rw [hbefore]
        exact Or.inr ⟨⟨rest, hrest.symm⟩, fun _ _ _ => Nat.zero_le _⟩
      · have hbefore : before word (c :: text) = c :: before word text := by
          simp [before, hstart]
        rw [hbefore]
        rcases ih with ⟨hnone, hall⟩ | ⟨⟨rest, hrest⟩, hfirst⟩
        · refine Or.inl ⟨?_, congrArg (c :: ·) hall⟩
          rw [List.infix_cons_iff]
          exact not_or.mpr ⟨hstart, hnone⟩
        · refine Or.inr ⟨⟨rest, congrArg (c :: ·) hrest⟩, ?_⟩
          intro front rest' htext
          cases front with
          | nil => exact absurd ⟨rest', htext.symm⟩ hstart
          | cons d front =>
              rw [List.cons_append, List.cons_append, List.cons.injEq] at htext
              exact Nat.succ_le_succ (hfirst front rest' htext.2)

end Search

theorem IsBefore.eq
    {word text part part' : List Char} (h : IsBefore word text part)
    (h' : IsBefore word text part') :
    part = part' := by
  rcases h with ⟨hnone, rfl⟩ | ⟨⟨rest, hrest⟩, hfirst⟩
  · rcases h' with ⟨_, rfl⟩ | ⟨⟨rest', hrest'⟩, _⟩
    · rfl
    · exact absurd ⟨part', rest', hrest'.symm⟩ hnone
  · rcases h' with ⟨hnone, _⟩ | ⟨⟨rest', hrest'⟩, hfirst'⟩
    · exact absurd ⟨part, rest, hrest.symm⟩ hnone
    · have hlength : part.length = part'.length :=
        Nat.le_antisymm (hfirst part' rest' hrest') (hfirst' part rest hrest)
      rw [hrest, List.append_assoc, List.append_assoc] at hrest'
      exact (List.append_inj hrest' hlength).1

/-- The search from the left finds the first occurrence. -/
theorem before_eq_iff
    {word : List Char} (hword : word ≠ []) (text part : List Char) :
    before word text = part ↔ IsBefore word text part := by
  constructor
  · rintro rfl
    exact isBefore_before hword text
  · exact (isBefore_before hword text).eq

/-- The search goes on through what no occurrence begins in. -/
theorem before_append
    {word left right : List Char}
    (h : ∀ front rest, left = front ++ rest → rest ≠ [] → ¬ word <+: rest ++ right) :
    before word (left ++ right) = left ++ before word right := by
  induction left with
  | nil => rfl
  | cons c left ih =>
      have hstart : ¬ word <+: c :: (left ++ right) :=
        h [] (c :: left) rfl (List.cons_ne_nil c left)
      rw [List.cons_append, List.cons_append, ← ih]
      · simp [before, hstart]
      · intro front rest hleft
        exact h (c :: front) rest (congrArg (c :: ·) hleft)

theorem exists_append_of_before
    (word text : List Char) :
    ∃ rest, text = before word text ++ rest ∧ (rest = [] ∨ word <+: rest) := by
  induction text with
  | nil => exact ⟨[], rfl, Or.inl rfl⟩
  | cons c text ih =>
      by_cases hstart : word <+: c :: text
      · exact ⟨c :: text, by simp [before, hstart], Or.inr hstart⟩
      · obtain ⟨rest, htext, hrest⟩ := ih
        refine ⟨rest, ?_, hrest⟩
        rw [before, if_neg (by simpa using hstart), List.cons_append, ← htext]

section Behind

variable {word trail : List Char}
variable (hlast : ∃ front c, word = front ++ [c] ∧ c ∉ trail)
include hlast

/-- A word that ends in a character that does not follow a text stands in the text itself. -/
theorem prefix_of_prefix_append
    {text : List Char} (h : word <+: text ++ trail) :
    word <+: text := by
  rcases List.prefix_or_prefix_of_prefix h (List.prefix_append text trail) with hle | hle
  · exact hle
  · obtain ⟨rest, rfl⟩ := hle
    rw [List.prefix_append_right_inj] at h
    obtain ⟨front, c, hword, hc⟩ := hlast
    cases rest.eq_nil_or_concat with
    | inl hrest => simp [hrest]
    | inr hrest =>
        obtain ⟨init, d, rfl⟩ := hrest
        have hd : d = c := by
          have := congrArg List.getLast? hword
          simpa using this
        subst hd
        exact absurd (h.subset (by simp)) hc

/-- Behind the last place where a word can end, the search finds nothing more. -/
theorem before_append_trail
    (text : List Char) :
    ∃ rest, before word (text ++ trail) = before word text ++ rest ∧
      (rest = [] ∨ rest = trail) := by
  induction text with
  | nil =>
      refine ⟨trail, ?_, Or.inr rfl⟩
      obtain ⟨front, c, rfl, hc⟩ := hlast
      have hnone : before (front ++ [c]) (trail ++ []) = trail ++ before (front ++ [c]) [] := by
        apply before_append
        rintro init rest rfl _ hprefix
        have hmem : c ∈ rest ++ [] := hprefix.subset (by simp)
        exact hc (by simpa using Or.inr hmem)
      simpa [before] using hnone
  | cons c text ih =>
      rw [List.cons_append]
      by_cases hstart : word <+: c :: text
      · have hstart' : word <+: c :: (text ++ trail) := hstart.trans (List.prefix_append _ trail)
        refine ⟨[], ?_, Or.inl rfl⟩
        simp [before, hstart, hstart']
      · have hstart' : ¬ word <+: c :: (text ++ trail) := by
          intro h
          have hprefix : word <+: (c :: text) ++ trail := h
          exact hstart (prefix_of_prefix_append hlast hprefix)
        obtain ⟨rest, hrest, hcases⟩ := ih
        refine ⟨rest, ?_, hcases⟩
        simp [before, hstart, hstart', hrest]

end Behind

end Text
end MustUse
