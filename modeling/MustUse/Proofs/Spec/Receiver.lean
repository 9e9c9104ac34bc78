import MustUse.Proofs.Spec.Listed

/-!
# Receivers behind aliases

A method is specified by the name of its receiver type, and a pointer to the type counts as the
type. Aliases may stand anywhere in between: for the type, for a pointer to it, and for each other.
The pointer is looked for before the aliases are resolved, so it is seen through only where it
stands outermost. A method whose receiver is an alias of a pointer has no name to be specified by.

Main definitions:

- `ReceiverType.resolved`: a type without aliases;
- `ReceiverType.Denotes`: the receivers of a type's methods;
- `ReceiverType.HidesPointer`: an alias of a pointer.

Main statements:

- `ReceiverType.specName_of_denotes`, `ReceiverType.specName_of_hidesPointer`: the name of a
  receiver;
- `Spec.isMatch_method_iff`: which methods a specification matches;
- `Spec.not_every_pointer_seen`: a pointer behind an alias is not seen.
-/

namespace MustUse
namespace Syntax
namespace ReceiverType

/-- The type with every alias in it replaced by what it stands for. -/
def resolved : ReceiverType → ReceiverType
  | .named name => .named name
  | .pointer target => .pointer target.resolved
  | .alias _ target => target.resolved
  | .unnamed => .unnamed

/-- When aliases are resolved, the type is the defined type `name` or a pointer to it. -/
def Denotes (t : ReceiverType) (name : String) : Prop :=
  t.resolved = .named name ∨ t.resolved = .pointer (.named name)

/-- An alias of a pointer, directly or through further aliases. -/
def HidesPointer (t : ReceiverType) : Prop :=
  ∃ name target element, t = .alias name target ∧ target.resolved = .pointer element

theorem resolved_unalias :
    ∀ t : ReceiverType, t.unalias.resolved = t.resolved
  | .named _ => rfl
  | .pointer _ => rfl
  | .alias _ target => resolved_unalias target
  | .unnamed => rfl

/-- The outer aliases of a defined type are all the aliases it has. -/
theorem unalias_eq_named_iff
    (name : String) :
    ∀ t : ReceiverType, t.unalias = .named name ↔ t.resolved = .named name
  | .named _ => Iff.rfl
  | .pointer target => by simp [unalias, resolved]
  | .alias _ target => unalias_eq_named_iff name target
  | .unnamed => Iff.rfl

theorem specName_of_unalias
    {t : ReceiverType} {name : String} (h : t.dropPointer.unalias = .named name) :
    t.specName = name := by
  simp [specName, h]

theorem specName_of_unalias_ne
    {t : ReceiverType} (h : ∀ name, t.dropPointer.unalias ≠ .named name) :
    t.specName = "" := by
  unfold specName
  split
  · rename_i name heq
    exact absurd heq (h name)
  · rfl

/-- A receiver that hides no pointer has the name of its type. -/
theorem specName_of_denotes
    {t : ReceiverType} {name : String} (h : t.Denotes name) (hpointer : ¬ t.HidesPointer) :
    t.specName = name := by
  apply specName_of_unalias
  rw [unalias_eq_named_iff]
  rcases h with hvalue | htarget
  · cases t with
    | pointer target => cases hvalue
    | _ => exact hvalue
  · match t with
    | .pointer target => exact ReceiverType.pointer.inj htarget
    | .alias name' target => exact absurd ⟨name', target, _, rfl, htarget⟩ hpointer

/-- A receiver that hides a pointer has no name: when its aliases are resolved, it is too late to look
for a pointer. -/
theorem specName_of_hidesPointer
    {t : ReceiverType} (h : t.HidesPointer) :
    t.specName = "" := by
  obtain ⟨_, target, element, rfl, htarget⟩ := h
  apply specName_of_unalias_ne
  intro name hname
  have hunalias : target.unalias.resolved = .pointer element := by
    rw [resolved_unalias, htarget]
  have hnamed : target.unalias = .named name := hname
  rw [hnamed] at hunalias
  cases hunalias

end ReceiverType
end Syntax

namespace Spec

open Syntax

theorem ofFunc?_method
    {f : Func} {package : Package} {signature : Signature} {receiver : ReceiverType}
    (hpackage : f.package = some package) (hsignature : f.signature = some signature)
    (hreceiver : signature.receiver = some receiver) :
    ofFunc? f =
      if receiver.specName = "" then none
      else some ⟨package.path, receiver.specName, f.name⟩ := by
  simp [ofFunc?, hpackage, hsignature, hreceiver]

/-- Receivers are seen through aliases and a pointer, unless the pointer stands behind an alias. For
a method whose receiver denotes a defined type or a pointer to it, the specification with a type is
matched if and only if it is the name of this type and no pointer is hidden. A method with a hidden
pointer is matched by no specification. -/
theorem isMatch_method_iff
    {f : Func} {package : Package} {signature : Signature} {receiver : ReceiverType} {name : String}
    (hpackage : f.package = some package) (hsignature : f.signature = some signature)
    (hreceiver : signature.receiver = some receiver) (hdenotes : receiver.Denotes name) :
    (∀ type, type ≠ "" →
      (isMatch ⟨package.path, type, f.name⟩ f = true ↔ type = name ∧ ¬ receiver.HidesPointer)) ∧
    (receiver.HidesPointer → ∀ s : Spec, s.isMatch f = false) := by
  have hspec := ofFunc?_method hpackage hsignature hreceiver
  have hunmatched : receiver.HidesPointer → ∀ s : Spec, s.isMatch f = false := by
    intro hpointer s
    rw [← Bool.not_eq_true, isMatch_iff, hspec,
      if_pos (ReceiverType.specName_of_hidesPointer hpointer)]
    simp
  refine ⟨?_, hunmatched⟩
  intro type htype
  by_cases hpointer : receiver.HidesPointer
  · simp [hunmatched hpointer, hpointer]
  · rw [isMatch_iff, hspec, ReceiverType.specName_of_denotes hdenotes hpointer]
    constructor
    · intro h
      split at h
      · cases h
      · cases h
        exact ⟨rfl, hpointer⟩
    · rintro ⟨rfl, _⟩
      rw [if_neg htype]

/-- A method `Get` of the package `example.com/store` with the given receiver. -/
def getMethod (receiver : ReceiverType) : Func :=
  .declared
    { id := 0, name := "Get", package := some { id := 0, path := "example.com/store" }
      signature := some { receiver := some receiver, results := 1 }, place := none }

/-- A pointer to an alias of an alias of the type is seen through; an alias of such a pointer is
not. -/
theorem isMatch_method_iff_store :
    (ReceiverType.pointer (.alias "Kept" (.alias "Cache" (.named "Store")))).Denotes "Store" ∧
    isMatch ⟨"example.com/store", "Store", "Get"⟩
      (getMethod (.pointer (.alias "Kept" (.alias "Cache" (.named "Store"))))) = true ∧
    (ReceiverType.alias "Handle" (.pointer (.alias "Cache" (.named "Store")))).Denotes "Store" ∧
    ∀ s : Spec, s.isMatch
      (getMethod (.alias "Handle" (.pointer (.alias "Cache" (.named "Store"))))) = false := by
  have hseen : (ReceiverType.pointer (.alias "Kept" (.alias "Cache" (.named "Store")))).Denotes
      "Store" := Or.inr rfl
  have hhidden : (ReceiverType.alias "Handle" (.pointer (.alias "Cache" (.named "Store")))).Denotes
      "Store" := Or.inr rfl
  refine ⟨hseen, ?_, hhidden, ?_⟩
  · have hmatch := (@isMatch_method_iff (getMethod _) ⟨0, "example.com/store"⟩ _ _ _
      rfl rfl rfl hseen).1 "Store" (by decide)
    refine hmatch.mpr ⟨rfl, ?_⟩
    rintro ⟨_, _, _, h, _⟩
    cases h
  · have hunmatched := (@isMatch_method_iff (getMethod _) ⟨0, "example.com/store"⟩ _ _ _
      rfl rfl rfl hhidden).2
    exact hunmatched ⟨"Handle", _, .named "Store", rfl, rfl⟩

/-- Not every pointer is seen through: behind an alias it hides the name of the type. -/
theorem not_every_pointer_seen :
    ¬ ∀ (f : Func) (package : Package) (signature : Signature) (receiver : ReceiverType)
      (name : String), f.package = some package → f.signature = some signature →
      signature.receiver = some receiver → receiver.Denotes name →
      ∀ type, type ≠ "" → (isMatch ⟨package.path, type, f.name⟩ f = true ↔ type = name) := by
  intro h
  have hmatch := (h (getMethod (.alias "Handle" (.pointer (.named "Store")))) _ _ _ "Store"
    rfl rfl rfl (Or.inr rfl) "Store" (by decide)).mpr rfl
  exact absurd hmatch (by decide)

end Spec
end MustUse
