import MustUse.Proofs.Text.Octets
import MustUse.Text.Decimal

/-!
# Numerals can be told apart

A numeral has decimal digits and at most a sign in front of them, and it is the numeral of one
number only.

Main definition: `digitsValue`, the number that digits stand for.

Main statements: `mem_decimal` and `decimal_injective`.
-/

namespace MustUse
namespace Text

/-- The number that a row of decimal digits stands for. -/
def digitsValue (text : List Char) : Nat :=
  text.foldl (fun value c => 10 * value + (c.toNat - 48)) 0

theorem toNat_digitChar
    {n : Nat} (h : n < 10) :
    (digitChar n).toNat = 48 + n :=
  toNat_ofNat (by omega)

theorem digitsValue_append
    (front : List Char) (c : Char) :
    digitsValue (front ++ [c]) = 10 * digitsValue front + (c.toNat - 48) := by
  simp [digitsValue]

/-- The digits of a number stand for it. -/
theorem digitsValue_digits
    (n : Nat) :
    digitsValue (digits n) = n := by
  fun_induction digits n with
  | case1 n hn => simp [digitsValue, toNat_digitChar hn]
  | case2 n hn ih =>
      rw [digitsValue_append, ih, toNat_digitChar (Nat.mod_lt n (by omega))]
      omega

theorem digits_injective
    {m n : Nat} (h : digits m = digits n) :
    m = n := by
  rw [← digitsValue_digits m, h, digitsValue_digits]

theorem mem_digits
    {n : Nat} {c : Char} (h : c ∈ digits n) :
    48 ≤ c.toNat ∧ c.toNat ≤ 57 := by
  fun_induction digits n with
  | case1 n hn =>
      rw [List.mem_singleton.mp h, toNat_digitChar hn]
      omega
  | case2 n hn ih =>
      rcases List.mem_append.mp h with h | h
      · exact ih h
      · rw [List.mem_singleton.mp h, toNat_digitChar (Nat.mod_lt n (by omega))]
        omega

/-- A numeral has no other characters than a minus sign and digits. -/
theorem mem_decimal
    {n : Int} {c : Char} (h : c ∈ (decimal n).toList) :
    c = '-' ∨ 48 ≤ c.toNat ∧ c.toNat ≤ 57 := by
  cases n with
  | ofNat k =>
      rw [decimal, String.toList_ofList] at h
      exact Or.inr (mem_digits h)
  | negSucc k =>
      rw [decimal, String.toList_ofList] at h
      rcases List.mem_cons.mp h with h | h
      · exact Or.inl h
      · exact Or.inr (mem_digits h)

theorem decimal_zero :
    decimal 0 = "0" := by
  have hdigits : digits 0 = ['0'] := by
    rw [digits, if_pos (by decide)]
    rfl
  change String.ofList (digits 0) = "0"
  rw [hdigits]

theorem digits_ne_minus
    (n : Nat) (rest : List Char) :
    digits n ≠ '-' :: rest := by
  intro h
  have hminus : '-' ∈ digits n := by
    rw [h]
    exact List.mem_cons_self
  have hdigit := mem_digits hminus
  exact absurd hdigit (by decide)

/-- Different numbers have different numerals. -/
theorem decimal_injective
    {m n : Int} (h : decimal m = decimal n) :
    m = n := by
  cases m with
  | ofNat k =>
      cases n with
      | ofNat l => rw [digits_injective (String.ofList_injective h)]
      | negSucc l => exact absurd (String.ofList_injective h) (digits_ne_minus k _)
  | negSucc k =>
      cases n with
      | ofNat l => exact absurd (String.ofList_injective h).symm (digits_ne_minus l _)
      | negSucc l =>
          have hdigits := (List.cons.inj (String.ofList_injective h)).2
          rw [Nat.succ.inj (digits_injective hdigits)]

end Text
end MustUse
