import MustUse.Config.Discover
import MustUse.Proofs.FileTree.Written
import Mathlib.Data.Nat.Find

/-!
# The configuration file that is found

The search goes from a directory to the directory above it, by writing, until one of three things
happens: the directory holds a configuration file, it holds the data of a repository, or it is its
own parent. On clean absolute texts the last one happens at the root at the latest. What the search
ends with is told without it: the nearest configuration file, if no repository ends before it.

Main definitions:

- `above`, `fileAt`, `repositoryAt`: directories above a directory, and the two names in them;
- `Search`: the rules of the search, with the number of steps up;
- `IsNearest`, `IsCutOff`: where the nearest configuration file is, and what hides all of them.

Main statements:

- `Search.unique`, `exists_search`: the search ends, in one way;
- `Search.eq_some_iff`: it ends with the nearest file;
- `discover_nearest`: what is found from a clean absolute directory.
-/

namespace MustUse
namespace Config

open FileTree

/-- The directory `n` levels above a written directory. Above the root there is the root again. -/
def above (dir : String) : Nat → String
  | 0 => dir
  | n + 1 => above (Path.parent dir) n

/-- The configuration file of the directory `n` levels above. -/
def fileAt (dir : String) (n : Nat) : String :=
  Path.join (above dir n) fileName

/-- The repository data of the directory `n` levels above. -/
def repositoryAt (dir : String) (n : Nat) : String :=
  Path.join (above dir n) repositoryName

section Search

variable (entry : String → Entry)

/-- From `dir`, the search goes up `n` times and ends with what it found, if anything. In each
directory the configuration file is looked for first, then the repository, then the way up. -/
inductive Search : String → Nat → Option String → Prop
  | found {dir : String} (hfile : entry (fileAt dir 0) ≠ .absent) :
      Search dir 0 (some (fileAt dir 0))
  | repository {dir : String} (hfile : entry (fileAt dir 0) = .absent)
      (hrepository : entry (repositoryAt dir 0) = .directory) :
      Search dir 0 none
  | root {dir : String} (hfile : entry (fileAt dir 0) = .absent)
      (hrepository : entry (repositoryAt dir 0) ≠ .directory) (hroot : Path.parent dir = dir) :
      Search dir 0 none
  | up {dir : String} {n : Nat} {found : Option String} (hfile : entry (fileAt dir 0) = .absent)
      (hrepository : entry (repositoryAt dir 0) ≠ .directory) (hup : Path.parent dir ≠ dir)
      (rest : Search (Path.parent dir) n found) :
      Search dir (n + 1) found

/-- The nearest configuration file is `n` levels above, and no directory below it holds a
repository. -/
structure IsNearest (dir : String) (n : Nat) : Prop where
  file : entry (fileAt dir n) ≠ .absent
  nearest : ∀ m < n, entry (fileAt dir m) = .absent
  inside : ∀ m < n, entry (repositoryAt dir m) ≠ .directory

/-- There is a repository `n` levels above, and no configuration file there or below. -/
structure IsCutOff (dir : String) (n : Nat) : Prop where
  repository : entry (repositoryAt dir n) = .directory
  empty : ∀ m ≤ n, entry (fileAt dir m) = .absent

end Search

variable {entry : String → Entry}

theorem above_of_parent_eq
    {dir : String} (h : Path.parent dir = dir) (n : Nat) :
    above dir n = dir := by
  induction n with
  | zero => rfl
  | succ n ih => rw [above, h, ih]

theorem Search.unique
    {dir : String} {n n' : Nat} {found found' : Option String}
    (h : Search entry dir n found) (h' : Search entry dir n' found') :
    n = n' ∧ found = found' := by
  induction h generalizing n' with
  | found hfile =>
      cases h' with
      | found _ => exact ⟨rfl, rfl⟩
      | repository hfile' _ => exact absurd hfile' hfile
      | root hfile' _ _ => exact absurd hfile' hfile
      | up hfile' _ _ _ => exact absurd hfile' hfile
  | repository hfile hrepository =>
      cases h' with
      | found hfile' => exact absurd hfile hfile'
      | repository _ _ => exact ⟨rfl, rfl⟩
      | root _ hrepository' _ => exact absurd hrepository hrepository'
      | up _ hrepository' _ _ => exact absurd hrepository hrepository'
  | root hfile hrepository hroot =>
      cases h' with
      | found hfile' => exact absurd hfile hfile'
      | repository _ hrepository' => exact absurd hrepository' hrepository
      | root _ _ _ => exact ⟨rfl, rfl⟩
      | up _ _ hup _ => exact absurd hroot hup
  | up hfile hrepository hup rest ih =>
      cases h' with
      | found hfile' => exact absurd hfile hfile'
      | repository _ hrepository' => exact absurd hrepository' hrepository
      | root _ _ hroot => exact absurd hroot hup
      | up _ _ _ rest' =>
          obtain ⟨rfl, rfl⟩ := ih rest'
          exact ⟨rfl, rfl⟩

/-- One step: seen from a directory without either entry, things are one level nearer to its
parent. -/
theorem isNearest_succ_iff
    (dir : String) (n : Nat) :
    IsNearest entry dir (n + 1) ↔
      entry (fileAt dir 0) = .absent ∧ entry (repositoryAt dir 0) ≠ .directory ∧
        IsNearest entry (Path.parent dir) n := by
  constructor
  · intro h
    refine ⟨h.nearest 0 (Nat.succ_pos n), h.inside 0 (Nat.succ_pos n), h.file, ?_, ?_⟩
    · intro m hm
      exact h.nearest (m + 1) (Nat.succ_lt_succ hm)
    · intro m hm
      exact h.inside (m + 1) (Nat.succ_lt_succ hm)
  · rintro ⟨hfile, hrepository, h⟩
    refine ⟨h.file, ?_, ?_⟩
    · intro m hm
      cases m with
      | zero => exact hfile
      | succ m => exact h.nearest m (Nat.lt_of_succ_lt_succ hm)
    · intro m hm
      cases m with
      | zero => exact hrepository
      | succ m => exact h.inside m (Nat.lt_of_succ_lt_succ hm)

/-- The whole run: the search ends with the nearest configuration file. -/
theorem Search.eq_some_iff
    {dir : String} {n : Nat} {found : Option String} (h : Search entry dir n found)
    (file : String) :
    found = some file ↔ ∃ k, file = fileAt dir k ∧ IsNearest entry dir k := by
  induction h with
  | @found dir hfile =>
      constructor
      · rintro ⟨⟩
        exact ⟨0, rfl, hfile, by simp, by simp⟩
      · rintro ⟨k, rfl, hk⟩
        cases k with
        | zero => rfl
        | succ k => exact absurd ((isNearest_succ_iff dir k).mp hk).1 hfile
  | @repository dir hfile hrepository =>
      refine ⟨by simp, ?_⟩
      rintro ⟨k, rfl, hk⟩
      cases k with
      | zero => exact absurd hfile hk.file
      | succ k => exact absurd hrepository ((isNearest_succ_iff dir k).mp hk).2.1
  | @root dir hfile hrepository hroot =>
      refine ⟨by simp, ?_⟩
      rintro ⟨k, rfl, hk⟩
      have hsame : fileAt dir k = fileAt dir 0 := by
        unfold fileAt
        rw [above_of_parent_eq hroot, above]
      rw [← hsame] at hfile
      exact absurd hfile hk.file
  | @up dir n found hfile hrepository hup rest ih =>
      rw [ih]
      constructor
      · rintro ⟨k, rfl, hk⟩
        exact ⟨k + 1, rfl, (isNearest_succ_iff dir k).mpr ⟨hfile, hrepository, hk⟩⟩
      · rintro ⟨k, rfl, hk⟩
        cases k with
        | zero => exact absurd hfile hk.file
        | succ k => exact ⟨k, rfl, ((isNearest_succ_iff dir k).mp hk).2.2⟩

/-- There is no nearest file if there is none at all, or if a repository ends before all of them. -/
theorem not_exists_isNearest_iff
    (dir : String) :
    (¬ ∃ n, IsNearest entry dir n) ↔
      (∀ n, entry (fileAt dir n) = .absent) ∨ ∃ n, IsCutOff entry dir n := by
  constructor
  · intro hnone
    by_cases hall : ∀ n, entry (fileAt dir n) = .absent
    · exact Or.inl hall
    · have hsome : ∃ n, entry (fileAt dir n) ≠ .absent := by
        simpa using hall
      have hbefore : ∀ m < Nat.find hsome, entry (fileAt dir m) = .absent := by
        intro m hm
        simpa using Nat.find_min hsome hm
      have hinside : ¬ ∀ m < Nat.find hsome, entry (repositoryAt dir m) ≠ .directory := by
        intro hinside
        exact hnone ⟨Nat.find hsome, Nat.find_spec hsome, hbefore, hinside⟩
      simp only [not_forall, not_not] at hinside
      obtain ⟨m, hm, hrepository⟩ := hinside
      refine Or.inr ⟨m, hrepository, ?_⟩
      intro k hk
      exact hbefore k (Nat.lt_of_le_of_lt hk hm)
  · rintro (hall | ⟨m, hm⟩) ⟨n, hn⟩
    · exact hn.file (hall n)
    · rcases Nat.lt_or_ge m n with hlt | hge
      · exact hn.inside m hlt hm.repository
      · exact hn.file (hm.empty n hge)

section Discover

/-- What is discovered, in writing, when entries are given by their written paths. -/
def discovered (entry : String → Entry) (p : Path) : Option String :=
  (discover (fun q => entry q.text) p).map Path.text

theorem fileAt_text
    {p : Path} (h : p.IsProper) :
    fileAt p.text 0 = Path.text (fileName :: p) :=
  Path.join_text h ⟨by decide, by decide, by decide, by decide⟩

theorem repositoryAt_text
    {p : Path} (h : p.IsProper) :
    repositoryAt p.text 0 = Path.text (repositoryName :: p) :=
  Path.join_text h ⟨by decide, by decide, by decide, by decide⟩

/-- Discovery makes the choices of the search, in the same order. -/
theorem discovered_eq
    {p : Path} (h : p.IsProper) :
    discovered entry p =
      if entry (fileAt p.text 0) ≠ .absent then some (fileAt p.text 0)
      else if entry (repositoryAt p.text 0) = .directory then none
      else if Path.parent p.text = p.text then none
      else discovered entry p.tail := by
  rw [fileAt_text h, repositoryAt_text h]
  simp only [Path.parent_text_eq_self_iff h]
  unfold discovered
  cases p with
  | nil =>
      by_cases hfile : entry (Path.text [fileName]) = .absent
      · simp [discover, hfile]
      · simp [discover, hfile]
  | cons name parent =>
      simp only [discover, List.cons_ne_nil, if_false, List.tail_cons]
      split
      · rfl
      · split
        · rfl
        · rfl

/-- One step: if the search from the parent ends with what is discovered there, so does the search
from the directory. -/
theorem exists_search_of_tail
    {p : Path} (h : p.IsProper)
    (hrest : p ≠ [] →
      ∃ n ≤ p.tail.length, Search entry (Path.text p.tail) n (discovered entry p.tail)) :
    ∃ n ≤ p.length, Search entry p.text n (discovered entry p) := by
  rw [discovered_eq h]
  by_cases hfile : entry (fileAt p.text 0) = .absent
  · rw [if_neg (not_not_intro hfile)]
    by_cases hrepository : entry (repositoryAt p.text 0) = .directory
    · rw [if_pos hrepository]
      exact ⟨0, Nat.zero_le _, Search.repository hfile hrepository⟩
    · rw [if_neg hrepository]
      by_cases hroot : Path.parent p.text = p.text
      · rw [if_pos hroot]
        exact ⟨0, Nat.zero_le _, Search.root hfile hrepository hroot⟩
      · rw [if_neg hroot]
        have hp : p ≠ [] := mt (Path.parent_text_eq_self_iff h).mpr hroot
        obtain ⟨n, hn, rest⟩ := hrest hp
        rw [← Path.parent_text h] at rest
        have hlength := List.length_pos_of_ne_nil hp
        rw [List.length_tail] at hn
        exact ⟨n + 1, by omega, Search.up hfile hrepository hroot rest⟩
  · rw [if_pos hfile]
    exact ⟨0, Nat.zero_le _, Search.found hfile⟩

/-- The search from a path that can be written ends at the root at the latest, with what is
discovered. -/
theorem exists_search
    {p : Path} (h : p.IsProper) :
    ∃ n ≤ p.length, Search entry p.text n (discovered entry p) := by
  induction p with
  | nil => exact exists_search_of_tail h fun hne => absurd rfl hne
  | cons name p ih => exact exists_search_of_tail h fun _ => ih h.tail

end Discover

/-- Discovery from a clean absolute directory ends and gives the nearest configuration file inside
the repository. The search reaches an end after at most as many steps up as the directory has
elements, and no other end. What it finds is the configuration file of the nearest directory that
has one, if no directory before that one holds a repository; next to the file, a repository hides
nothing, and an entry under its name that is no directory does not count. It finds nothing if there
is no such file, or if a repository comes before. -/
theorem discover_nearest
    (entry : String → Entry) (cwd : Path) {start : String} (hstart : Path.IsClean start) :
    let path := Path.resolve cwd start
    let found := (discover (fun p => entry p.text) path).map Path.text
    (∃ n ≤ path.length, Search entry start n found) ∧
    (∀ n found', Search entry start n found' → found' = found) ∧
    (∀ file, found = some file ↔ ∃ n, file = fileAt start n ∧ IsNearest entry start n) ∧
    (found = none ↔
      (∀ n, entry (fileAt start n) = .absent) ∨ ∃ n, IsCutOff entry start n) := by
  intro path found
  obtain ⟨hproper, htext⟩ := hstart.exists_path cwd
  have hends : ∃ n ≤ path.length, Search entry start n found := by
    have h : ∃ n ≤ path.length, Search entry path.text n found := exists_search hproper
    rwa [htext] at h
  obtain ⟨n, hn, hsearch⟩ := hends
  refine ⟨⟨n, hn, hsearch⟩, ?_, hsearch.eq_some_iff, ?_⟩
  · intro n' found' hsearch'
    exact (hsearch'.unique hsearch).2
  · rw [← not_exists_isNearest_iff, Option.eq_none_iff_forall_ne_some]
    constructor
    · rintro hnone ⟨k, hk⟩
      exact hnone (fileAt start k) ((hsearch.eq_some_iff _).mpr ⟨k, rfl, hk⟩)
    · intro hnone file hfile
      obtain ⟨k, _, hk⟩ := (hsearch.eq_some_iff file).mp hfile
      exact hnone ⟨k, hk⟩

/-- A directory with a configuration file next to its repository, a file in the place of a
repository below it, and another configuration file above it. -/
def workTree : String → Entry
  | "/work/.retval.toml" => .file
  | "/work/.git" => .directory
  | "/work/lib/.git" => .file
  | "/.retval.toml" => .file
  | _ => .absent

/-- The search passes what is no repository and finds the file next to the one that is. -/
theorem discover_nearest_work :
    Path.IsClean "/work/lib/sub" ∧
    (discover (fun p => workTree p.text) (Path.resolve [] "/work/lib/sub")).map Path.text =
      some "/work/.retval.toml" := by
  have hclean : Path.IsClean "/work/lib/sub" := by decide
  obtain ⟨_, _, hfound, _⟩ := discover_nearest workTree [] hclean
  have hnearest : IsNearest workTree "/work/lib/sub" 2 := ⟨by decide, by decide, by decide⟩
  exact ⟨hclean, (hfound _).mpr ⟨2, by decide, hnearest⟩⟩

end Config
end MustUse
