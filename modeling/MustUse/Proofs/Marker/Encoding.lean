import MustUse.Marker.Fact
import MustUse.Proofs.Marker.Name
import MustUse.Proofs.Text.Element
import MustUse.Proofs.Text.Octets
import Mathlib.Data.List.Nodup

/-!
# Sets of markers in writing

A fact holds the written names of a set, and they are read again by whoever gets the fact. Names
that are not well-formed are lost on the way, and only these: no such name is written like a
well-formed one. The written form of a fact shows the set, as no order or repetition is left in it.

Main definition: `Set.WellFormed`.

Main statements:

- `Fact.mem_toSet_ofSet_iff`: what is read from a fact;
- `Set.WellFormed.texts_eq_iff`: the written names determine the set;
- `facts_encode_sets`: names and facts are a lossless encoding.
-/

namespace MustUse
namespace Marker

open Text

/-- What is read from a fact: the well-formed names of the set that it was made from. -/
theorem Fact.mem_toSet_ofSet_iff
    (s : Set) (n : Name) :
    n ∈ (Fact.ofSet s).toSet ↔ n ∈ s ∧ n.WellFormed := by
  unfold Fact.toSet Fact.ofSet
  rw [Set.mem_ofList, List.mem_filterMap]
  simp only [Set.mem_texts, Name.parse?_eq_some_iff]
  constructor
  · rintro ⟨_, ⟨m, hm, rfl⟩, hn, htext⟩
    rw [hn.eq_of_text_eq htext.symm] at hm
    exact ⟨hm, hn⟩
  · rintro ⟨hmem, hn⟩
    exact ⟨n.text, ⟨n, hmem, rfl⟩, hn, rfl⟩

namespace Set

/-- A set of well-formed names, each held once. -/
structure WellFormed (s : Set) : Prop where
  nodup : s.names.Nodup
  names : ∀ n ∈ s, n.WellFormed

theorem textLe_iff
    (a b : String) :
    textLe a b = true ↔ a ≤ b := by
  rw [textLe, Bool.not_eq_true', decide_eq_false_iff_not, String.not_lt]

theorem pairwise_texts
    (s : Set) :
    s.texts.Pairwise (· ≤ ·) := by
  have h : s.texts.Pairwise fun a b => textLe a b = true := by
    apply List.pairwise_mergeSort
    · intro a b c
      simp only [textLe_iff]
      exact String.le_trans
    · intro a b
      rw [Bool.or_eq_true, textLe_iff, textLe_iff]
      exact String.le_total a b
  exact h.imp fun {a b} => (textLe_iff a b).mp

/-- Different names are written differently. -/
theorem WellFormed.nodup_texts
    {s : Set} (h : s.WellFormed) :
    s.texts.Nodup := by
  unfold texts
  rw [(List.mergeSort_perm _ _).nodup_iff]
  apply List.Nodup.map_on _ h.nodup
  intro m _ n hn htext
  exact (h.names n hn).eq_of_text_eq htext

theorem WellFormed.texts_increasing
    {s : Set} (h : s.WellFormed) :
    s.texts.Pairwise fun a b => octets a < octets b := by
  refine (s.pairwise_texts.and h.nodup_texts).imp ?_
  rintro a b ⟨hle, hne⟩
  rw [octets_lt_iff, ← String.not_le]
  intro hge
  exact hne (String.le_antisymm hle hge)

/-- The written names determine a set, and are determined by it. -/
theorem WellFormed.texts_eq_iff
    {s t : Set} (hs : s.WellFormed) (ht : t.WellFormed) :
    s.texts = t.texts ↔ ∀ n, n ∈ s ↔ n ∈ t := by
  have hsubset : ∀ {u v : Set}, u.WellFormed → u.texts = v.texts → ∀ n, n ∈ u → n ∈ v := by
    intro u v hu htexts n hn
    have hmem : n.text ∈ v.texts := htexts ▸ (u.mem_texts n.text).mpr ⟨n, hn, rfl⟩
    obtain ⟨m, hm, htext⟩ := (v.mem_texts n.text).mp hmem
    rwa [← (hu.names n hn).eq_of_text_eq htext]
  constructor
  · intro htexts n
    exact ⟨hsubset hs htexts n, hsubset ht htexts.symm n⟩
  · intro hmem
    have hperm : s.names.Perm t.names := (List.perm_ext_iff_of_nodup hs.nodup ht.nodup).mpr hmem
    have htexts : s.texts.Perm t.texts :=
      (List.mergeSort_perm _ _).trans ((hperm.map _).trans (List.mergeSort_perm _ _).symm)
    refine htexts.eq_of_pairwise ?_ s.pairwise_texts t.pairwise_texts
    intro a b _ _ hab hba
    exact String.le_antisymm hab hba

/-- A written name is not empty and has no comma. -/
theorem WellFormed.separable_texts
    {s : Set} (h : s.WellFormed) :
    ∀ entry ∈ s.texts, entry ≠ "" ∧ ',' ∉ entry.toList := by
  intro entry hentry
  obtain ⟨n, hn, rfl⟩ := (s.mem_texts entry).mp hentry
  refine ⟨?_, (h.names n hn).comma_not_mem_text⟩
  intro hempty
  exact n.text_ne_nil (by simp [hempty])

end Set

/-- The written form of a fact shows the names in it. -/
theorem Fact.text_ofSet_inj
    {s t : Set} (hs : s.WellFormed) (ht : t.WellFormed) :
    (Fact.ofSet s).text = (Fact.ofSet t).text ↔ s.texts = t.texts := by
  unfold Fact.text Fact.ofSet
  rw [String.append_left_inj, String.append_right_inj]
  exact joinWith_inj hs.separable_texts ht.separable_texts

/-- Names and facts are a lossless encoding. A text is read as a name if and only if the name is
well-formed and written as this text. From the fact of any set, exactly its well-formed names are
read, so going through a fact a second time changes nothing. For sets of well-formed names the fact
lists them in increasing order of their octets, and the written forms of two facts are equal if and
only if the sets are. -/
theorem facts_encode_sets :
    (∀ (s : String) (n : Name), Name.parse? s = some n ↔ n.WellFormed ∧ n.text = s) ∧
    (∀ (s : Set) (n : Name), n ∈ (Fact.ofSet s).toSet ↔ n ∈ s ∧ n.WellFormed) ∧
    (∀ (s : Set) (n : Name),
      n ∈ (Fact.ofSet (Fact.ofSet s).toSet).toSet ↔ n ∈ (Fact.ofSet s).toSet) ∧
    (∀ s : Set, s.WellFormed →
      (Fact.ofSet s).markers.Pairwise fun a b => octets a < octets b) ∧
    ∀ s t : Set, s.WellFormed → t.WellFormed →
      ((Fact.ofSet s).text = (Fact.ofSet t).text ↔ ∀ n, n ∈ s ↔ n ∈ t) := by
  refine ⟨Name.parse?_eq_some_iff, Fact.mem_toSet_ofSet_iff, ?_, ?_, ?_⟩
  · intro s n
    rw [Fact.mem_toSet_ofSet_iff, Fact.mem_toSet_ofSet_iff, and_assoc, and_self]
  · intro s hs
    exact hs.texts_increasing
  · intro s t hs ht
    rw [Fact.text_ofSet_inj hs ht]
    exact hs.texts_eq_iff ht

/-- Two markers have the same fact in both orders; names with a further colon are lost. -/
theorem facts_encode_sets_twoMarkers :
    Set.WellFormed ⟨[⟨"retval", "mustuse"⟩, ⟨"doc", "stable"⟩]⟩ ∧
    Set.WellFormed ⟨[⟨"doc", "stable"⟩, ⟨"retval", "mustuse"⟩]⟩ ∧
    (Fact.ofSet ⟨[⟨"retval", "mustuse"⟩, ⟨"doc", "stable"⟩]⟩).text =
      (Fact.ofSet ⟨[⟨"doc", "stable"⟩, ⟨"retval", "mustuse"⟩]⟩).text ∧
    ∀ n, n ∈ (Fact.ofSet ⟨[⟨"a:b", "c"⟩, ⟨"doc", "stable"⟩, ⟨"a", "b:c"⟩]⟩).toSet ↔
      n = ⟨"doc", "stable"⟩ := by
  obtain ⟨_, hread, _, _, hinj⟩ := facts_encode_sets
  have hleft : Set.WellFormed ⟨[⟨"retval", "mustuse"⟩, ⟨"doc", "stable"⟩]⟩ :=
    ⟨by decide, by decide⟩
  have hright : Set.WellFormed ⟨[⟨"doc", "stable"⟩, ⟨"retval", "mustuse"⟩]⟩ :=
    ⟨by decide, by decide⟩
  refine ⟨hleft, hright, ?_, ?_⟩
  · rw [hinj _ _ hleft hright]
    intro n
    simp [or_comm]
  · intro n
    rw [hread]
    constructor
    · rintro ⟨hmem, hn⟩
      simp only [Set.mem_names, List.mem_cons, List.not_mem_nil, or_false] at hmem
      rcases hmem with rfl | rfl | rfl
      · exact absurd hn (by decide)
      · rfl
      · exact absurd hn (by decide)
    · rintro rfl
      exact ⟨by simp, by decide⟩

end Marker
end MustUse
