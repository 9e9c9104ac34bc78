import MustUse.Host.Batch
import MustUse.Host.Pass

/-!
# The owner of a file name

Packages claim the names of their files one after the other, and a name that is taken stays. So the
owner of a name is the first package in the order of claims that was loaded without errors and has a
file with that name.

Main definitions: `LoadedPackage.holds`, a package can claim a name.

Main statements:

- `lookup_owners`: the owner of a name;
- `lookup_owners_eq_some`: the owner of a name that no other package can claim;
- `skipNames_eq_generatedNames`: a package that shares no names leaves out its generated files only.
-/

namespace MustUse
namespace Host

open Syntax

/-- Whether a package can claim a name: it has no errors, and one of its files has this name. -/
def LoadedPackage.holds (fileSet : FileSet) (name : String) (p : LoadedPackage) : Bool :=
  p.isSound && (p.files.map (·.name fileSet)).contains name

theorem LoadedPackage.holds_eq_true_iff
    (fileSet : FileSet) (name : String) (p : LoadedPackage) :
    p.holds fileSet name = true ↔
      p.isSound = true ∧ ∃ file ∈ p.files, file.name fileSet = name := by
  simp [holds]

/-- The owner of a name after some names have been claimed for package number `i`. -/
theorem lookup_foldl_names
    (names : List String) (owners : Owners) (i : Nat) (name : String) :
    (names.foldl
      (fun owners name =>
        if (owners.lookup name).isSome then owners else owners ++ [(name, i)])
      owners).lookup name =
      (owners.lookup name).or (if names.contains name then some i else none) := by
  induction names generalizing owners with
  | nil => simp
  | cons m names ih =>
      rw [List.foldl_cons, ih]
      by_cases hm : name = m
      · subst hm
        cases hname : owners.lookup name with
        | none => simp [hname, List.lookup_append]
        | some j => simp [hname]
      · have hbeq : (name == m) = false := beq_eq_false_iff_ne.mpr hm
        have hlookup :
            (if (owners.lookup m).isSome then owners else owners ++ [(m, i)]).lookup name =
              owners.lookup name := by
          split
          · rfl
          · simp [List.lookup_append, List.lookup_cons, hbeq]
        rw [hlookup, List.contains_cons, hbeq, Bool.false_or]

/-- One step: a package becomes the owner of a name that it can claim and that is not taken. -/
theorem lookup_claim
    (fileSet : FileSet) (owners : Owners) (e : LoadedPackage × Nat) (name : String) :
    (claim fileSet owners e).lookup name =
      (owners.lookup name).or (if e.1.holds fileSet name then some e.2 else none) := by
  unfold claim LoadedPackage.holds
  cases e.1.isSound with
  | true => simpa using lookup_foldl_names (e.1.files.map (·.name fileSet)) owners e.2 name
  | false => simp

/-- A run of steps: the first package that can claim a name becomes its owner, unless the name was
taken before. -/
theorem lookup_foldl_claim
    (fileSet : FileSet) (entries : List (LoadedPackage × Nat)) (owners : Owners)
    (name : String) :
    (entries.foldl (claim fileSet) owners).lookup name =
      (owners.lookup name).or ((entries.find? (·.1.holds fileSet name)).map (·.2)) := by
  induction entries generalizing owners with
  | nil => simp
  | cons e entries ih =>
      rw [List.foldl_cons, ih, lookup_claim, Option.or_assoc, List.find?_cons]
      cases e.1.holds fileSet name with
      | true => simp
      | false => simp

/-- The owner of a name is the first test variant that can claim it, or else the first other
package that can. -/
theorem lookup_owners
    (fileSet : FileSet) (packages : List LoadedPackage) (name : String) :
    (owners fileSet packages).lookup name =
      ((packages.zipIdx.filter (·.1.isTestVariant) ++
        packages.zipIdx.filter (!·.1.isTestVariant)).find?
          (·.1.holds fileSet name)).map (·.2) := by
  unfold owners
  rw [lookup_foldl_claim]
  rfl

/-- A package that alone can claim a name is its owner. -/
theorem lookup_owners_eq_some
    {fileSet : FileSet} {packages : List LoadedPackage} {name : String} {i : Nat}
    {p : LoadedPackage} (hp : packages[i]? = some p) (hholds : p.holds fileSet name = true)
    (honly : ∀ j q, packages[j]? = some q → q.holds fileSet name = true → j = i) :
    (owners fileSet packages).lookup name = some i := by
  have hmem : ∀ e, e ∈ packages.zipIdx.filter (·.1.isTestVariant) ++
      packages.zipIdx.filter (!·.1.isTestVariant) ↔ packages[e.2]? = some e.1 := by
    intro e
    rw [List.mem_append, List.mem_filter, List.mem_filter, List.mem_zipIdx_iff_getElem?]
    cases e.1.isTestVariant with
    | true => simp
    | false => simp
  rw [lookup_owners]
  cases hfind : (packages.zipIdx.filter (·.1.isTestVariant) ++
      packages.zipIdx.filter (!·.1.isTestVariant)).find? (·.1.holds fileSet name) with
  | none =>
      have hnone := List.find?_eq_none.mp hfind (p, i) ((hmem (p, i)).mpr hp)
      exact absurd hholds hnone
  | some e =>
      have he := (hmem e).mp (List.mem_of_find?_eq_some hfind)
      have hclaims := List.find?_some hfind
      rw [Option.map_some, honly e.2 e.1 he hclaims]

/-- A package that alone can claim the names of its files reports on all but the generated ones. -/
theorem skipNames_eq_generatedNames
    {fileSet : FileSet} {packages : List LoadedPackage} {i : Nat} {p : LoadedPackage}
    (hp : packages[i]? = some p) (hsound : p.isSound = true)
    (honly : ∀ file ∈ p.files, ∀ j q, packages[j]? = some q →
      q.holds fileSet (file.name fileSet) = true → j = i) :
    skipNames fileSet (owners fileSet packages) i p.files =
      Pass.generatedNames fileSet p.files := by
  unfold skipNames Pass.generatedNames
  congr 1
  apply List.filter_congr
  intro file hfile
  have hholds : p.holds fileSet (file.name fileSet) = true :=
    (LoadedPackage.holds_eq_true_iff _ _ _).mpr ⟨hsound, file, hfile, rfl⟩
  have howner := lookup_owners_eq_some hp hholds (honly file hfile)
  simp [howner]

end Host
end MustUse
