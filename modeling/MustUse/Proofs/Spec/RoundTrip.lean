import MustUse.Proofs.Spec.Listed

/-!
# Writing a specification and reading it back

The written form leaves empty parts out together with their dots, and reading goes from right to
left. So a text is given back by the specification that it is read as, up to a dot at its start, and
a specification is given back by its written form only if no part of it is taken for another.

Main definition: `Legible`, the specifications that are given back by their written form.

Main statement: `parse_text_inverse`.
-/

namespace MustUse
namespace Spec

open Text

/-- A specification whose written form can be read in one way only, the way it is meant. The name of
a function has no dot; a receiver type is spelt like one and stands behind a path; a path without
receiver type does not end in what is taken for one. -/
inductive Legible : Spec → Prop
  | bare {func : String} (hfunc : '.' ∉ func.toList) :
      Legible ⟨"", "", func⟩
  | function {package func : String} (hfunc : '.' ∉ func.toList) (hpackage : package ≠ "")
      (htype : ¬ EndsInType package) :
      Legible ⟨package, "", func⟩
  | method {package type func : String} (hfunc : '.' ∉ func.toList) (hpackage : package ≠ "")
      (hdot : '.' ∉ type.toList) (htype : IsTypeName type) :
      Legible ⟨package, type, func⟩

theorem IsTypeName.ne_empty
    {type : String} (h : IsTypeName type) :
    type ≠ "" := by
  rintro rfl
  exact not_isTypeName_empty h

/-- Only a path that is empty costs the written form the dot behind it. -/
theorem dotted_eq_text
    (package type func : String) :
    package ++ "." ++ (if type = "" then "" else type ++ ".") ++ func =
      (if package = "" then "." else "") ++ text ⟨package, type, func⟩ := by
  by_cases hpackage : package = ""
  · simp [text, hpackage, String.append_assoc]
  · simp [text, hpackage, String.append_assoc]

theorem text_method
    {package type func : String} (hpackage : package ≠ "") (htype : type ≠ "") :
    text ⟨package, type, func⟩ = package ++ "." ++ type ++ "." ++ func := by
  simp [text, hpackage, htype, String.append_assoc]

theorem text_function
    {package func : String} (hpackage : package ≠ "") :
    text ⟨package, "", func⟩ = package ++ "." ++ func := by
  simp [text, hpackage]

/-- A text is the written form of what it is read as, behind a dot if it has dots and starts with
one that ends an empty path. -/
theorem Reads.eq_text
    {word : String} {s : Spec} (h : Reads word s) :
    word = (if '.' ∈ word.toList ∧ s.package = "" then "." else "") ++ s.text := by
  cases h with
  | @bare func hfunc =>
      rw [if_neg fun hdot => hfunc hdot.1]
      simp [text]
  | @function package func =>
      have hdot : '.' ∈ (package ++ "." ++ func).toList := by simp
      have hdotted := dotted_eq_text package "" func
      rw [if_pos rfl, String.append_empty] at hdotted
      simpa only [hdot, true_and] using hdotted
  | @method package type func _ _ htype =>
      have hdot : '.' ∈ (package ++ "." ++ type ++ "." ++ func).toList := by simp
      have hdotted := dotted_eq_text package type func
      rw [if_neg htype.ne_empty, ← String.append_assoc] at hdotted
      simpa only [hdot, true_and] using hdotted

theorem Legible.reads_text
    {s : Spec} (h : Legible s) :
    Reads s.text s := by
  cases h with
  | @bare func hfunc =>
      have htext : text ⟨"", "", func⟩ = func := by simp [text]
      rw [htext]
      exact Reads.bare hfunc
  | function hfunc hpackage htype =>
      rw [text_function hpackage]
      exact Reads.function hfunc htype
  | method hfunc hpackage hdot htype =>
      rw [text_method hpackage htype.ne_empty]
      exact Reads.method hfunc hdot htype

/-- Without a path, the dot in front of the rest would have to be written. -/
theorem legible_of_reads_text
    {s : Spec} (h : Reads s.text s) :
    Legible s := by
  have hpath : '.' ∈ s.text.toList → s.package ≠ "" := by
    intro hdot hpackage
    have htext := h.eq_text
    rw [if_pos ⟨hdot, hpackage⟩, eq_comm, String.append_eq_right_iff] at htext
    exact absurd htext (by decide)
  generalize hword : s.text = word at h
  cases h with
  | bare hfunc => exact Legible.bare hfunc
  | function hfunc htype =>
      refine Legible.function hfunc (hpath ?_) htype
      rw [hword]
      simp
  | method hfunc hdot htype =>
      refine Legible.method hfunc (hpath ?_) hdot htype
      rw [hword]
      simp

/-- Reading and writing undo each other wherever they can. What is read from a text is written as
this text, unless the text has a dot and is read with an empty path: then it is written without the
dot at its start. And a specification is read back from its written form if and only if it is
legible. -/
theorem parse_text_inverse :
    (∀ word : String,
      word = (if '.' ∈ word.toList ∧ (parse word).package = "" then "." else "") ++
        (parse word).text) ∧
    ∀ s : Spec, parse s.text = s ↔ Legible s := by
  refine ⟨fun word => (reads_parse word).eq_text, fun s => ?_⟩
  rw [parse_eq_iff]
  exact ⟨legible_of_reads_text, Legible.reads_text⟩

/-- A path that ends in what is taken for a receiver type. -/
example : parse (text ⟨"example.com/p.V", "", "Close"⟩) = ⟨"example.com/p", "V", "Close"⟩ := by
  decide

end Spec
end MustUse
