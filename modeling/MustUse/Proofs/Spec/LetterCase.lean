import MustUse.Proofs.Spec.Listed
import MustUse.Proofs.Text.Octets

/-!
# Receiver types by the case of their first letter

Types that others can use have names that begin with an upper-case letter, and a segment before the
name of a function is taken for a receiver type by this sign. What is looked up in the table of
upper-case letters is not the letter but the first octet of its form, as if it were a code point.
For ASCII both are the same. Beyond, the octet tells only the block in which the letter stands: all
letters from U+0080 to U+07BF pass for upper-case, but for those from U+05C0 to U+05FF, and none of
the later ones does.

Main definitions:

- `CaseTable`: a table of upper-case letters;
- `octetChar?`: the first octet of a text, read as a code point;
- `readingOf`: the two readings of a name with three parts;
- `InUpperBlock`: the letters beyond ASCII that pass for upper-case.

Main statements:

- `parse_by_first_octet`: the octet decides, and where this is the case of the letter;
- `no_table_read_by_letter`: it is not the case of every letter.
-/

namespace MustUse
namespace Spec

open Text

/-- A table of upper-case letters. Of the first 256 code points it has the letters from `A` to `Z`
and from `À` to `Þ`, without the sign `×` between them. -/
structure CaseTable where
  isUpper : Char → Bool
  isUpper_iff : ∀ c : Char, c.toNat < 256 →
    (isUpper c = true ↔ 'A' ≤ c ∧ c ≤ 'Z' ∨ 'À' ≤ c ∧ c ≤ 'Þ' ∧ c ≠ '×')

/-- The first octet of a text, read as a code point. -/
def octetChar? (s : String) : Option Char :=
  (octets s).head?.map fun octet => Char.ofNat octet.toNat

/-- The name of a type or of a function: there is neither a dot nor a slash in it. -/
structure IsName (name : String) : Prop where
  ne_empty : name ≠ ""
  dot_not_mem : '.' ∉ name.toList
  slash_not_mem : '/' ∉ name.toList

/-- What a name with three parts specifies, if the part in the middle is a receiver type, and if it
belongs to the path. -/
def readingOf (isType : Bool) (package type func : String) : Spec :=
  if isType then ⟨package, type, func⟩ else ⟨package ++ "." ++ type, "", func⟩

/-- The characters beyond ASCII whose forms begin with an upper-case octet. -/
def InUpperBlock (c : Char) : Prop :=
  0x80 ≤ c.toNat ∧ c.toNat < 0x5C0 ∨ 0x600 ≤ c.toNat ∧ c.toNat < 0x7C0

/-- The first octet by the length of the form. -/
theorem leadOctet_cases
    (c : Char) :
    c.toNat < 0x80 ∧ leadOctet c = c.toNat ∨
    0x80 ≤ c.toNat ∧ c.toNat < 0x800 ∧ leadOctet c = 0xC0 + c.toNat / 0x40 ∨
    0x800 ≤ c.toNat ∧ c.toNat < 0x10000 ∧ leadOctet c = 0xE0 + c.toNat / 0x1000 ∨
    0x10000 ≤ c.toNat ∧ c.toNat < 0x110000 ∧ leadOctet c = 0xF0 + c.toNat / 0x40000 := by
  have hmax := toNat_lt c
  by_cases h₁ : c.toNat < 0x80
  · exact Or.inl ⟨h₁, by simp [leadOctet, h₁]⟩
  by_cases h₂ : c.toNat < 0x800
  · exact Or.inr (Or.inl ⟨by omega, h₂, by simp [leadOctet, h₁, h₂]⟩)
  by_cases h₃ : c.toNat < 0x10000
  · exact Or.inr (Or.inr (Or.inl ⟨by omega, h₃, by simp [leadOctet, h₁, h₂, h₃]⟩))
  · exact Or.inr (Or.inr (Or.inr ⟨by omega, hmax, by simp [leadOctet, h₁, h₂, h₃]⟩))

theorem leadOctet_lt
    (c : Char) :
    leadOctet c < 256 := by
  rcases leadOctet_cases c with h | h | h | h <;> omega

theorem head?_utf8EncodeChar
    (c : Char) :
    (String.utf8EncodeChar c).head? = some (UInt8.ofNat (leadOctet c)) := by
  have hval : c.val.toNat = c.toNat := rfl
  have hcases := leadOctet_cases c
  fun_cases String.utf8EncodeChar c
  all_goals
    simp +zetaDelta only [List.head?_cons, hval] at *
    congr 2
    omega

/-- The first octet of a text is that of its first character. -/
theorem octetChar?_eq
    {s : String} {letter : Char} (h : s.toList.head? = some letter) :
    octetChar? s = some (Char.ofNat (leadOctet letter)) := by
  obtain ⟨rest, hchars⟩ := List.head?_eq_some_iff.mp h
  rw [octetChar?, octets_eq_flatMap, hchars, List.flatMap_cons, List.head?_append,
    head?_utf8EncodeChar, Option.some_or, Option.map_some,
    UInt8.toNat_ofNat_of_lt' (leadOctet_lt letter)]

theorem isUpperOctet_iff
    (octet : Nat) :
    isUpperOctet octet = true ↔
      0x41 ≤ octet ∧ octet ≤ 0x5A ∨ 0xC0 ≤ octet ∧ octet ≤ 0xDE ∧ octet ≠ 0xD7 := by
  simp [isUpperOctet, and_assoc]

theorem CaseTable.isUpper_iff_toNat
    (table : CaseTable) {c : Char} (h : c.toNat < 256) :
    table.isUpper c = true ↔ isUpperOctet c.toNat = true := by
  have hle : ∀ a b : Char, a ≤ b ↔ a.toNat ≤ b.toNat := fun _ _ => Iff.rfl
  rw [table.isUpper_iff c h, isUpperOctet_iff, hle, hle, hle, hle, ne_eq, ← Char.toNat_inj]
  exact Iff.rfl

/-- Every table says of octets what the reading of specifications knows of them. -/
theorem CaseTable.isUpper_ofNat
    (table : CaseTable) {octet : Nat} (h : octet < 256) :
    table.isUpper (Char.ofNat octet) = isUpperOctet octet := by
  have htoNat : (Char.ofNat octet).toNat = octet := toNat_ofNat (by omega)
  rw [Bool.eq_iff_iff, table.isUpper_iff_toNat (by omega), htoNat]

theorem isUpperOctet_leadOctet_iff
    (c : Char) :
    isUpperOctet (leadOctet c) = true ↔
      c.toNat < 0x80 ∧ isUpperOctet c.toNat = true ∨ InUpperBlock c := by
  rw [isUpperOctet_iff, isUpperOctet_iff, InUpperBlock]
  rcases leadOctet_cases c with h | h | h | h <;> omega

/-- Which letters have the case of their first octet. -/
theorem CaseTable.isUpperOctet_eq_iff
    (table : CaseTable) (c : Char) :
    isUpperOctet (leadOctet c) = table.isUpper c ↔
      c.toNat < 0x80 ∨ (table.isUpper c = true ↔ InUpperBlock c) := by
  rw [Bool.eq_iff_iff, isUpperOctet_leadOctet_iff]
  by_cases hascii : c.toNat < 0x80
  · have hblock : ¬ InUpperBlock c := by
      unfold InUpperBlock
      omega
    have hlatin : c.toNat < 256 := by omega
    simp [hascii, hblock, table.isUpper_iff_toNat hlatin]
  · simp only [hascii, false_and, false_or]
    exact iff_comm

theorem IsName.exists_head
    {name : String} (h : IsName name) :
    ∃ letter, name.toList.head? = some letter := by
  cases hchars : name.toList with
  | nil => exact absurd (String.toList_eq_nil_iff.mp hchars) h.ne_empty
  | cons letter rest => exact ⟨letter, rfl⟩

theorem IsName.isTypeName_iff
    {name : String} {letter : Char} (h : IsName name) (hfirst : name.toList.head? = some letter) :
    IsTypeName name ↔ isUpperOctet (leadOctet letter) = true := by
  obtain ⟨rest, hchars⟩ := List.head?_eq_some_iff.mp hfirst
  constructor
  · rintro ⟨_, letter', rest', hchars', hupper⟩
    rw [hchars] at hchars'
    cases hchars'
    exact hupper
  · intro hupper
    exact ⟨h.slash_not_mem, letter, rest, hchars, hupper⟩

/-- Behind a dot, a path ends in a receiver type only if it is the last segment. -/
theorem IsName.endsInType_iff
    {name : String} (h : IsName name) (package : String) :
    EndsInType (package ++ "." ++ name) ↔ IsTypeName name := by
  rw [Spec.endsInType_iff, cutLast_dot_append package h.dot_not_mem]
  constructor
  · rintro ⟨front, segment, hcut, htype⟩
    cases hcut
    exact (isTypeSegment_iff name).mp htype
  · intro htype
    exact ⟨_, _, rfl, (isTypeSegment_iff name).mpr htype⟩

/-- The octet decides between the two readings. -/
theorem parse_eq_readingOf
    (package : String) {type func : String} (htype : IsName type) (hfunc : IsName func)
    {letter : Char} (hfirst : type.toList.head? = some letter) :
    parse (package ++ "." ++ type ++ "." ++ func) =
      readingOf (isUpperOctet (leadOctet letter)) package type func := by
  rw [parse_eq_iff]
  by_cases hupper : isUpperOctet (leadOctet letter) = true
  · rw [readingOf, if_pos hupper]
    exact Reads.method hfunc.dot_not_mem htype.dot_not_mem
      ((htype.isTypeName_iff hfirst).mpr hupper)
  · rw [readingOf, if_neg hupper]
    refine Reads.function hfunc.dot_not_mem ?_
    rwa [htype.endsInType_iff, htype.isTypeName_iff hfirst]

/-- The two readings are different. -/
theorem readingOf_inj
    (package : String) {type : String} (htype : type ≠ "") (func : String) {a b : Bool} :
    readingOf a package type func = readingOf b package type func ↔ a = b := by
  cases a <;> cases b <;> simp [readingOf, htype, Ne.symm htype]

/-- A name with three parts is read by looking up the first octet of the middle part in the table of
upper-case letters. This is the case of its first letter exactly in two cases: the letter belongs to
ASCII, or the table counts it as upper-case if and only if it stands in one of the blocks whose
octets pass for upper-case letters. -/
theorem parse_by_first_octet
    (table : CaseTable) (package : String) {type func : String}
    (htype : IsName type) (hfunc : IsName func) :
    ∃ letter octet : Char, type.toList.head? = some letter ∧ octetChar? type = some octet ∧
      parse (package ++ "." ++ type ++ "." ++ func) =
        readingOf (table.isUpper octet) package type func ∧
      (parse (package ++ "." ++ type ++ "." ++ func) =
          readingOf (table.isUpper letter) package type func ↔
        letter.toNat < 0x80 ∨ (table.isUpper letter = true ↔ InUpperBlock letter)) := by
  obtain ⟨letter, hfirst⟩ := htype.exists_head
  refine ⟨letter, Char.ofNat (leadOctet letter), hfirst, octetChar?_eq hfirst, ?_, ?_⟩
  · rw [table.isUpper_ofNat (leadOctet_lt letter)]
    exact parse_eq_readingOf package htype hfunc hfirst
  · rw [parse_eq_readingOf package htype hfunc hfirst, readingOf_inj package htype.ne_empty]
    exact table.isUpperOctet_eq_iff letter

instance (name : String) : Decidable (IsName name) :=
  decidable_of_iff (name ≠ "" ∧ '.' ∉ name.toList ∧ '/' ∉ name.toList)
    ⟨fun ⟨hne, hdot, hslash⟩ => ⟨hne, hdot, hslash⟩,
      fun h => ⟨h.ne_empty, h.dot_not_mem, h.slash_not_mem⟩⟩

/-- The upper-case letters of the first 256 code points and of U+1E00 to U+1E95, where capital and
small letters alternate. -/
def latinTable : CaseTable where
  isUpper c :=
    decide ('A' ≤ c ∧ c ≤ 'Z' ∨ 'À' ≤ c ∧ c ≤ 'Þ' ∧ c ≠ '×') ||
      decide (0x1E00 ≤ c.toNat ∧ c.toNat ≤ 0x1E95 ∧ c.toNat % 2 = 0)
  isUpper_iff := by
    intro c hlatin
    have hbeyond : ¬ (0x1E00 ≤ c.toNat ∧ c.toNat ≤ 0x1E95 ∧ c.toNat % 2 = 0) := by omega
    rw [decide_eq_false hbeyond, Bool.or_false, decide_eq_true_iff]

/-- A capital letter outside the blocks is missed, and a letter of ASCII is not. -/
theorem parse_by_first_octet_latin :
    (IsName "Ḃox" ∧ latinTable.isUpper 'Ḃ' = true ∧
      parse "example.com/p.Ḃox.Close" ≠ ⟨"example.com/p", "Ḃox", "Close"⟩) ∧
    IsName "box" ∧ latinTable.isUpper 'b' = false ∧
      parse "example.com/p.box.Close" = ⟨"example.com/p.box", "", "Close"⟩ := by
  have hcapital : IsName "Ḃox" := by decide
  have hsmall : IsName "box" := by decide
  have hfunc : IsName "Close" := by decide
  refine ⟨⟨hcapital, by decide, ?_⟩, hsmall, by decide, ?_⟩
  · obtain ⟨letter, _, hfirst, _, _, hagree⟩ :=
      parse_by_first_octet latinTable "example.com/p" hcapital hfunc
    cases hfirst
    intro hparse
    rcases hagree.mp hparse with hascii | hblock
    · exact absurd hascii (by decide)
    · rcases hblock.mp (by decide) with ⟨_, h⟩ | ⟨_, h⟩
      · exact absurd h (by decide)
      · exact absurd h (by decide)
  · obtain ⟨letter, _, hfirst, _, _, hagree⟩ :=
      parse_by_first_octet latinTable "example.com/p" hsmall hfunc
    cases hfirst
    exact hagree.mpr (Or.inl (by decide))

/-- There is no table of upper-case letters by which the first letter decides: a small letter with a
mark is taken for a capital. -/
theorem no_table_read_by_letter :
    ¬ ∃ table : CaseTable, ∀ (package type func : String) (letter : Char), package ≠ "" →
      IsName type → IsName func → type.toList.head? = some letter →
      parse (package ++ "." ++ type ++ "." ++ func) =
        readingOf (table.isUpper letter) package type func := by
  rintro ⟨table, h⟩
  have hsmall : table.isUpper 'é' = false := by
    rw [← Bool.not_eq_true, table.isUpper_iff 'é' (by decide)]
    decide
  have hparse := h "example.com/p" "élan" "Close" 'é' (by decide) (by decide) (by decide) rfl
  rw [hsmall] at hparse
  exact absurd hparse (by decide)

end Spec
end MustUse
