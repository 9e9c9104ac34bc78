/-!
# The order of texts and of their octets

Texts are compared by their characters, and as files they are octets. UTF-8 is made so that both
comparisons agree: of two different characters the smaller one has the smaller form, and no form
begins another.

Main definition: `octets`, the UTF-8 form of a text.

Main statement: `octets_lt_iff`.
-/

namespace MustUse
namespace Text

/-- The octets of the UTF-8 form of a text. -/
def octets (s : String) : List UInt8 :=
  s.toUTF8.data.toList

theorem octets_eq_flatMap
    (s : String) :
    octets s = s.toList.flatMap String.utf8EncodeChar := by
  rw [octets, String.toUTF8_eq_toByteArray, ← String.utf8Encode_toList, List.utf8Encode,
    List.toList_data_toByteArray]

theorem toNat_lt
    (c : Char) :
    c.toNat < 0x110000 := by
  rcases c.valid with hc | ⟨_, hc⟩
  · change c.toNat < 0xd800 at hc
    omega
  · exact hc

theorem toNat_ofNat
    {n : Nat} (h : n < 0xd800) :
    (Char.ofNat n).toNat = n := by
  rw [Char.ofNat, dif_pos (Or.inl h)]
  rfl

theorem ofNat_cons_lt_iff
    {m n : Nat} (hm : m < 256) (hn : n < 256) (x y : List UInt8) :
    UInt8.ofNat m :: x < UInt8.ofNat n :: y ↔ m < n ∨ m = n ∧ x < y := by
  rw [List.cons_lt_cons_iff, UInt8.lt_iff_toNat_lt, ← UInt8.toNat_inj,
    UInt8.toNat_ofNat_of_lt' hm, UInt8.toNat_ofNat_of_lt' hn]

/-- Numbers are compared by their digits to the base 64, the first that differs decides. -/
theorem digits_lt
    {m n : Nat} (h : m < n) :
    m / 262144 < n / 262144 ∨ m / 262144 = n / 262144 ∧
      (m / 4096 % 64 < n / 4096 % 64 ∨ m / 4096 % 64 = n / 4096 % 64 ∧
        (m / 64 % 64 < n / 64 % 64 ∨ m / 64 % 64 = n / 64 % 64 ∧ m % 64 < n % 64)) := by
  by_cases hthird : m / 64 < n / 64
  · by_cases hsecond : m / 4096 < n / 4096
    · omega
    · omega
  · omega

/-- The form of a smaller character decides the comparison, whatever follows it. A longer form has a
greater first octet, and forms of the same length hold the digits. -/
theorem utf8EncodeChar_append_lt
    {c d : Char} (h : c < d) (x y : List UInt8) :
    String.utf8EncodeChar c ++ x < String.utf8EncodeChar d ++ y := by
  have hlt : c.val.toNat < d.val.toNat := h
  have hmax : d.val.toNat / 262144 < 8 := by
    have hd : d.val.toNat < 0x110000 := toNat_lt d
    omega
  have hdigits := digits_lt hlt
  fun_cases String.utf8EncodeChar c <;> fun_cases String.utf8EncodeChar d
  all_goals
    simp +zetaDelta (disch := omega) only [List.cons_append, List.nil_append, ofNat_cons_lt_iff]
    omega

theorem flatMap_utf8EncodeChar_lt
    {a b : List Char} (h : a < b) :
    a.flatMap String.utf8EncodeChar < b.flatMap String.utf8EncodeChar := by
  induction a generalizing b with
  | nil =>
      cases b with
      | nil => exact absurd h (List.lt_irrefl [])
      | cons d b =>
          obtain ⟨octet, rest, hform⟩ := List.exists_cons_of_ne_nil
            (String.utf8EncodeChar_ne_nil (c := d))
          rw [List.flatMap_cons, hform]
          exact List.nil_lt_cons octet _
  | cons c a ih =>
      cases b with
      | nil => exact absurd h (List.not_lt_nil _)
      | cons d b =>
          rw [List.flatMap_cons, List.flatMap_cons]
          rcases List.cons_lt_cons_iff.mp h with hcd | ⟨rfl, hab⟩
          · exact utf8EncodeChar_append_lt hcd _ _
          · exact List.append_left_lt (ih hab)

theorem octets_lt
    {a b : String} (h : a < b) :
    octets a < octets b := by
  rw [octets_eq_flatMap, octets_eq_flatMap]
  exact flatMap_utf8EncodeChar_lt h

/-- Texts are in the order of their octets. -/
theorem octets_lt_iff
    (a b : String) :
    octets a < octets b ↔ a < b := by
  constructor
  · intro h
    by_cases hba : b ≤ a
    · rcases Decidable.em (a = b) with rfl | hne
      · exact absurd h (List.lt_irrefl _)
      · have hlt : b < a := by
          rw [← String.not_le]
          intro hab
          exact hne (String.le_antisymm hab hba)
        exact absurd (octets_lt hlt) (List.lt_asymm h)
    · exact String.not_le.mp hba
  · exact octets_lt

end Text
end MustUse
