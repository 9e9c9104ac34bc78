import MustUse.Marker.Name

/-!
# Sets of markers

The markers attached to one function, each once.

Main definitions:

- `Set`, `Set.insert`, `Set.union`;
- `Set.texts`: the written names in increasing order.
-/

namespace MustUse
namespace Marker

/-- A set of marker names, held as a list without repetitions in the order of insertion. -/
structure Set where
  names : List Name
deriving DecidableEq, Repr

namespace Set

/-- The set without members. -/
def empty : Set :=
  { names := [] }

instance : Membership Name Set where
  mem s n := n ∈ s.names

/-- Whether a name is in the set. -/
def contains (s : Set) (n : Name) : Bool :=
  s.names.contains n

/-- The set with one more member. -/
def insert (s : Set) (n : Name) : Set :=
  if s.contains n then s else { names := s.names ++ [n] }

/-- The set of the names in a list. -/
def ofList (names : List Name) : Set :=
  names.foldl insert empty

/-- The members of both sets. -/
def union (s t : Set) : Set :=
  t.names.foldl insert s

/-- Whether the set has no members. -/
def isEmpty (s : Set) : Bool :=
  s.names.isEmpty

/-- The order of texts: by code point, which is the order of their UTF-8 forms. -/
def textLe (a b : String) : Bool :=
  !(b < a)

/-- The written names in increasing order. -/
def texts (s : Set) : List String :=
  (s.names.map Name.text).mergeSort textLe

@[simp] theorem mem_names
    (s : Set) (n : Name) :
    n ∈ s ↔ n ∈ s.names := by
  rfl

@[simp] theorem contains_iff
    (s : Set) (n : Name) :
    s.contains n = true ↔ n ∈ s := by
  simp [contains]

@[simp] theorem mem_insert
    (s : Set) (m n : Name) :
    n ∈ s.insert m ↔ n ∈ s ∨ n = m := by
  unfold insert
  split
  · rename_i h
    rw [contains_iff] at h
    constructor
    · exact Or.inl
    · rintro (hn | rfl)
      · exact hn
      · exact h
  · simp

/-- Inserting names one after the other adds exactly these names. -/
theorem mem_foldl_insert
    (names : List Name) (s : Set) (n : Name) :
    n ∈ names.foldl insert s ↔ n ∈ s ∨ n ∈ names := by
  induction names generalizing s with
  | nil => simp
  | cons m names ih =>
      rw [List.foldl_cons, ih, mem_insert, List.mem_cons, or_assoc]

theorem mem_ofList
    (names : List Name) (n : Name) :
    n ∈ ofList names ↔ n ∈ names := by
  have h := mem_foldl_insert names empty n
  simpa [ofList, empty] using h

theorem mem_union
    (s t : Set) (n : Name) :
    n ∈ s.union t ↔ n ∈ s ∨ n ∈ t := by
  exact mem_foldl_insert t.names s n

theorem not_mem_empty
    (n : Name) :
    ¬ n ∈ empty := by
  intro h
  cases h

theorem isEmpty_eq_true_iff
    (s : Set) :
    s.isEmpty = true ↔ ∀ n, ¬ n ∈ s := by
  unfold isEmpty
  rw [List.isEmpty_iff]
  exact List.eq_nil_iff_forall_not_mem

theorem nodup_insert
    {s : Set} (hs : s.names.Nodup) (n : Name) :
    (s.insert n).names.Nodup := by
  unfold insert
  split
  · exact hs
  · rename_i h
    rw [contains_iff] at h
    refine List.nodup_append.mpr ⟨hs, by simp, ?_⟩
    intro a ha b hb hab
    rw [List.mem_singleton] at hb
    subst hb
    subst hab
    exact h ha

theorem mem_texts
    (s : Set) (t : String) :
    t ∈ s.texts ↔ ∃ n ∈ s, n.text = t := by
  unfold texts
  rw [List.mem_mergeSort, List.mem_map]
  rfl

/-- Inserting names one after the other repeats none. -/
theorem nodup_foldl_insert
    (names : List Name) {s : Set} (hs : s.names.Nodup) :
    (names.foldl insert s).names.Nodup := by
  induction names generalizing s with
  | nil => exact hs
  | cons m names ih =>
      exact ih (nodup_insert hs m)

end Set
end Marker
end MustUse
