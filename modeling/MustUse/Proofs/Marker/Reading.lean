import MustUse.Proofs.Marker.Declaration
import MustUse.Proofs.Marker.Name

/-!
# What doc comments say

The reading of a doc comment is built comment by comment. Here it is taken apart again: each comment
has its own share in the markers, in the issues and in the attached directives, and the reading of
several comments is made of these shares.

Main definitions:

- `isMustUse`, `marker?`, `issue?`: the share of one comment;
- `Site.reading`: the shares of the comments of a site.

Main statements:

- `foldl_add`: the reading of several comments;
- `attaches_iff`: the markers that a file attaches are those in the readings of its sites;
- `parse?_text_of_parse?`: the names in directives are written as they are read.
-/

namespace MustUse
namespace Marker

open Syntax

/-- Whether a comment is a must-use directive. -/
def isMustUse (c : Comment) : Bool :=
  (Directive.parse? c.text).any Directive.isMustUse

/-- The marker that a comment attaches to the function it documents. -/
def marker? (c : Comment) : Option Name :=
  (Directive.parse? c.text).bind fun d =>
    if d.isMustUse ∧ d.args ≠ "" then none else some d.name

/-- What is wrong with a comment in the doc of `f`. -/
def issue? (file : File) (f : Func) (c : Comment) : Option Issue :=
  (Directive.parse? c.text).bind fun d =>
    if d.isMustUse then
      if d.args ≠ "" then
        some { kind := .hasArgs, place := some (file.place c.offset), func := f.name }
      else if f.returnsValue then
        none
      else
        some { kind := .noResult, place := some (file.place c.offset), func := f.name }
    else
      none

theorem isMustUse_iff
    (c : Comment) :
    isMustUse c = true ↔ ∃ d, Directive.parse? c.text = some d ∧ d.name = Name.mustUse := by
  unfold isMustUse
  rw [Option.any_eq_true]
  simp only [Directive.isMustUse, decide_eq_true_eq]

theorem marker?_eq_some_iff
    (c : Comment) (n : Name) :
    marker? c = some n ↔
      ∃ d, Directive.parse? c.text = some d ∧ d.name = n ∧ (n = Name.mustUse → d.args = "") := by
  unfold marker?
  rw [Option.bind_eq_some_iff]
  simp only [Directive.isMustUse, decide_eq_true_eq]
  constructor
  · rintro ⟨d, hd, hn⟩
    split at hn
    · cases hn
    · rename_i hargs
      cases hn
      refine ⟨d, hd, rfl, ?_⟩
      intro hmust
      by_contra hne
      exact hargs ⟨hmust, hne⟩
  · rintro ⟨d, hd, rfl, hargs⟩
    refine ⟨d, hd, ?_⟩
    rw [if_neg]
    rintro ⟨hmust, hne⟩
    exact hne (hargs hmust)

/-- One more comment adds its own share to a reading. -/
theorem add_eq
    (file : File) (f : Func) (r : Reading) (c : Comment) :
    r.add file f c =
      { set := (marker? c).toList.foldl Set.insert r.set
        issues := r.issues ++ (issue? file f c).toList
        attached := r.attached ++ if isMustUse c then [c.offset] else [] } := by
  unfold Reading.add marker? issue? isMustUse
  cases Directive.parse? c.text with
  | none => simp
  | some d =>
      by_cases hmust : d.isMustUse = true
      · by_cases hargs : d.args = ""
        · cases f.returnsValue with
          | true => simp [hmust, hargs]
          | false => simp [hmust, hargs]
        · simp [hmust, hargs]
      · simp [hmust]

/-- The reading of several comments is made of the shares of each. -/
theorem foldl_add
    (file : File) (f : Func) (cs : List Comment) (r : Reading) :
    cs.foldl (Reading.add file f) r =
      { set := (cs.filterMap marker?).foldl Set.insert r.set
        issues := r.issues ++ cs.filterMap (issue? file f)
        attached := r.attached ++ (cs.filter isMustUse).map (·.offset) } := by
  induction cs generalizing r with
  | nil => simp
  | cons c cs ih =>
      rw [List.foldl_cons, ih, add_eq]
      simp only [List.filterMap_eq_flatMap_toList, List.flatMap_cons, List.foldl_append,
        List.append_assoc]
      cases hc : isMustUse c with
      | true => simp [hc]
      | false => simp [hc]

/-- The shares of the comments of a site, taken together. -/
def Site.reading (file : File) (s : Site) (f : Func) : Reading :=
  { set := Set.ofList ((s.comments file).filterMap marker?)
    issues := (s.comments file).filterMap (issue? file f)
    attached := ((s.comments file).filter isMustUse).map (·.offset) }

theorem read_eq_some_iff
    (file : File) (s : Site) (f : Func) (r : Reading) :
    s.read file = some (f, r) ↔ s.func? = some f ∧ r = s.reading file f := by
  unfold Site.read Site.reading
  rw [Option.map_eq_some_iff]
  simp only [foldl_add, Reading.empty, List.nil_append, Prod.mk.injEq]
  constructor
  · rintro ⟨g, hg, rfl, hr⟩
    exact ⟨hg, hr.symm⟩
  · rintro ⟨hf, hr⟩
    exact ⟨f, hf, rfl, hr.symm⟩

/-- The markers that a site attaches are those of its comments. -/
theorem mem_set_reading
    (file : File) (s : Site) (f : Func) (n : Name) :
    n ∈ (s.reading file f).set ↔ ∃ c ∈ s.comments file, marker? c = some n := by
  have h := Set.mem_foldl_insert ((s.comments file).filterMap marker?) Set.empty n
  rw [List.mem_filterMap] at h
  refine h.trans ⟨?_, Or.inr⟩
  rintro (hn | hn)
  · exact absurd hn (Set.not_mem_empty n)
  · exact hn

/-- A file attaches the markers that the readings of its sites hold. -/
theorem attaches_iff
    (file : File) (f : Func) (n : Name) :
    Attaches file f n ↔ ∃ s ∈ sites file, ∃ r, s.read file = some (f, r) ∧ n ∈ r.set := by
  unfold Attaches
  constructor
  · rintro ⟨c, d, hdoc, hd, hn, hargs⟩
    obtain ⟨s, hs, hf, hc⟩ := (documents_iff file c f).mp hdoc
    refine ⟨s, hs, s.reading file f, (read_eq_some_iff file s f _).mpr ⟨hf, rfl⟩, ?_⟩
    rw [mem_set_reading]
    exact ⟨c, hc, (marker?_eq_some_iff c n).mpr ⟨d, hd, hn, hargs⟩⟩
  · rintro ⟨s, hs, r, hr, hn⟩
    obtain ⟨hf, rfl⟩ := (read_eq_some_iff file s f r).mp hr
    obtain ⟨c, hc, hm⟩ := (mem_set_reading file s f n).mp hn
    obtain ⟨d, hd, hname, hargs⟩ := (marker?_eq_some_iff c n).mp hm
    exact ⟨c, d, (documents_iff file c f).mpr ⟨s, hs, hf, hc⟩, hd, hname, hargs⟩

/-- The name of a directive is read back from its written form. -/
theorem parse?_text_of_parse?
    {comment : String} {d : Directive}
    (h : Directive.parse? comment = some d) :
    Name.parse? d.name.text = some d.name := by
  unfold Directive.parse? at h
  split at h
  · cases h
  · rename_i body _
    unfold Directive.parseBody? at h
    simp only at h
    split at h
    · cases h
    · rename_i name hname
      cases h
      have hread := (Name.parseChars?_eq_some_iff _ name).mp hname
      exact (Name.parseChars?_eq_some_iff _ name).mpr ⟨hread.1, rfl⟩

end Marker
end MustUse
