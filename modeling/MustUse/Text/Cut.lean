/-!
# Cutting texts

A text is cut at the first or the last occurrence of a character, or shortened to what stands
before the first occurrence of a word.

Main definitions:

- `cut`, `cutLast`: the two sides of the first and of the last separator;
- `before`: what stands before the first occurrence of a word, the whole text if there is none;
- `joinWith`: parts with a separator between them.
-/

namespace MustUse
namespace Text

/-- The two sides of the first `sep`, or nothing when the text has none. -/
def cut (sep : Char) : List Char → Option (List Char × List Char)
  | [] => none
  | c :: rest =>
    if c = sep then
      some ([], rest)
    else
      match cut sep rest with
      | none => none
      | some (left, right) => some (c :: left, right)

/-- The two sides of the last `sep`, or nothing when the text has none. -/
def cutLast (sep : Char) : List Char → Option (List Char × List Char)
  | [] => none
  | c :: rest =>
    match cutLast sep rest with
    | some (left, right) => some (c :: left, right)
    | none => if c = sep then some ([], rest) else none

/-- What stands before the first occurrence of `word`; the whole text if it does not occur. -/
def before (word : List Char) : List Char → List Char
  | [] => []
  | c :: rest =>
    if word.isPrefixOf (c :: rest) then
      []
    else
      c :: before word rest

/-- Whether `word` occurs in the text. -/
def occurs (word : List Char) : List Char → Bool
  | [] => word.isEmpty
  | c :: rest => word.isPrefixOf (c :: rest) || occurs word rest

/-- The rest of the text after `word`, when it starts with it. -/
def after? (word : List Char) (text : List Char) : Option (List Char) :=
  if word.isPrefixOf text then some (text.drop word.length) else none

/-- The parts in order, with `sep` between neighbours. -/
def joinWith (sep : String) : List String → String
  | [] => ""
  | [part] => part
  | part :: rest => part ++ sep ++ joinWith sep rest

theorem cut_eq_some
    {sep : Char} {text left right : List Char}
    (h : cut sep text = some (left, right)) :
    text = left ++ sep :: right ∧ sep ∉ left := by
  induction text generalizing left with
  | nil => simp [cut] at h
  | cons c rest ih =>
      by_cases hc : c = sep
      · simp [cut, hc] at h
        obtain ⟨rfl, rfl⟩ := h
        simp [hc]
      · cases hr : cut sep rest with
        | none => simp [cut, hc, hr] at h
        | some pair =>
            obtain ⟨l, r⟩ := pair
            simp [cut, hc, hr] at h
            obtain ⟨rfl, rfl⟩ := h
            obtain ⟨htext, hmem⟩ := ih hr
            refine ⟨by simp [htext], ?_⟩
            simp [hmem, Ne.symm hc]

theorem cut_eq_none_iff
    {sep : Char} {text : List Char} :
    cut sep text = none ↔ sep ∉ text := by
  induction text with
  | nil => simp [cut]
  | cons c rest ih =>
      by_cases hc : c = sep
      · simp [cut, hc]
      · cases hr : cut sep rest with
        | none =>
            have := ih.1 hr
            simp [cut, hc, hr, this, Ne.symm hc]
        | some pair =>
            have hmem : sep ∈ rest := by
              apply Classical.byContradiction
              intro hne
              simp [ih.2 hne] at hr
            obtain ⟨l, r⟩ := pair
            simp [cut, hc, hr, hmem]

theorem cut_append
    {sep : Char} {left : List Char} (h : sep ∉ left) (right : List Char) :
    cut sep (left ++ sep :: right) = some (left, right) := by
  induction left with
  | nil => simp [cut]
  | cons c left ih =>
      obtain ⟨hc, hleft⟩ := List.ne_and_not_mem_of_not_mem_cons h
      simp [cut, hc.symm, ih hleft]

theorem cutLast_eq_none_iff
    {sep : Char} {text : List Char} :
    cutLast sep text = none ↔ sep ∉ text := by
  induction text with
  | nil => simp [cutLast]
  | cons c rest ih =>
      cases hr : cutLast sep rest with
      | none =>
          have hne := ih.1 hr
          by_cases hc : c = sep
          · simp [cutLast, hr, hc]
          · simp [cutLast, hr, hc, hne, Ne.symm hc]
      | some pair =>
          have hmem : sep ∈ rest := by
            apply Classical.byContradiction
            intro hne
            simp [ih.2 hne] at hr
          obtain ⟨l, r⟩ := pair
          simp [cutLast, hr, hmem]

theorem cutLast_eq_some
    {sep : Char} {text left right : List Char}
    (h : cutLast sep text = some (left, right)) :
    text = left ++ sep :: right ∧ sep ∉ right := by
  induction text generalizing left with
  | nil => simp [cutLast] at h
  | cons c rest ih =>
      cases hr : cutLast sep rest with
      | none =>
          by_cases hc : c = sep
          · simp [cutLast, hr, hc] at h
            obtain ⟨rfl, rfl⟩ := h
            exact ⟨by simp [hc], cutLast_eq_none_iff.1 hr⟩
          · simp [cutLast, hr, hc] at h
      | some pair =>
          obtain ⟨l, r⟩ := pair
          simp [cutLast, hr] at h
          obtain ⟨rfl, rfl⟩ := h
          obtain ⟨htext, hmem⟩ := ih hr
          exact ⟨by simp [htext], hmem⟩

theorem cutLast_append
    (sep : Char) (left : List Char) {right : List Char} (h : sep ∉ right) :
    cutLast sep (left ++ sep :: right) = some (left, right) := by
  induction left with
  | nil => simp [cutLast, cutLast_eq_none_iff.2 h]
  | cons c left ih => simp [cutLast, ih]

end Text
end MustUse
