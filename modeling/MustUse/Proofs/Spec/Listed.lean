import MustUse.Proofs.Text.Element
import MustUse.Spec

/-!
# The functions that a list names

A function has at most one specification that matches it, and a text is read as a given
specification only if it is put together from its parts. So a list marks a function exactly if the
function's own text, path and receiver and name, is one of its elements.

Main definitions:

- `IsTypeName`, `EndsInType`: spellings that are taken for a receiver type;
- `Reads`: the specification that a text is read as, by the shape of the text;
- `ofFunc?`: the specification of a function;
- `Lists`: the elements of a comma-separated list;
- `Designates`: the text of a function.

Main statements:

- `parse_eq_iff`: reading follows the shape of the text;
- `isMatch_iff`: a function is matched by its own specification only;
- `anyMatch_parseList_iff_lists`: which functions a list marks.
-/

namespace MustUse
namespace Spec

open Syntax Text

/-- A spelling that is taken for a receiver type: its first octet is upper-case, and it has no
slash. -/
def IsTypeName (type : String) : Prop :=
  '/' ∉ type.toList ∧ ∃ c rest, type.toList = c :: rest ∧ isUpperOctet (leadOctet c) = true

/-- The last dotted segment of a path, with a dot before it, is taken for a receiver type. -/
def EndsInType (path : String) : Prop :=
  ∃ front type, path = front ++ "." ++ type ∧ '.' ∉ type.toList ∧ IsTypeName type

/-- The specification that a text is read as. What follows the last dot is the name of the
function; the segment before it is the receiver type, if its spelling allows. -/
inductive Reads : String → Spec → Prop
  | bare {func : String} (hfunc : '.' ∉ func.toList) :
      Reads func ⟨"", "", func⟩
  | function {package func : String} (hfunc : '.' ∉ func.toList) (htype : ¬ EndsInType package) :
      Reads (package ++ "." ++ func) ⟨package, "", func⟩
  | method {package type func : String} (hfunc : '.' ∉ func.toList) (hdot : '.' ∉ type.toList)
      (htype : IsTypeName type) :
      Reads (package ++ "." ++ type ++ "." ++ func) ⟨package, type, func⟩

theorem isTypeSegment_iff
    (type : String) :
    isTypeSegment type.toList = true ↔ IsTypeName type := by
  unfold IsTypeName
  cases htype : type.toList with
  | nil => simp [isTypeSegment]
  | cons c rest => simp [isTypeSegment]

instance : DecidablePred IsTypeName :=
  fun type => decidable_of_iff _ (isTypeSegment_iff type)

theorem not_isTypeName_empty :
    ¬ IsTypeName "" := by
  rintro ⟨_, c, rest, h, _⟩
  cases h

theorem cutLast_dot_append
    (left : String) {right : String} (h : '.' ∉ right.toList) :
    cutLast '.' (left ++ "." ++ right).toList = some (left.toList, right.toList) := by
  have hchars : (left ++ "." ++ right).toList = left.toList ++ '.' :: right.toList := by
    simp
  rw [hchars, cutLast_append '.' left.toList h]

theorem exists_of_cutLast_dot
    {text : String} {left right : List Char} (h : cutLast '.' text.toList = some (left, right)) :
    text = String.ofList left ++ "." ++ String.ofList right ∧
      '.' ∉ (String.ofList right).toList := by
  obtain ⟨htext, hright⟩ := cutLast_eq_some h
  refine ⟨?_, by simpa using hright⟩
  apply String.toList_injective
  simpa using htext

theorem endsInType_iff
    (path : String) :
    EndsInType path ↔
      ∃ front segment, cutLast '.' path.toList = some (front, segment) ∧
        isTypeSegment segment = true := by
  constructor
  · rintro ⟨front, type, rfl, hdot, htype⟩
    exact ⟨front.toList, type.toList, cutLast_dot_append front hdot,
      (isTypeSegment_iff type).mpr htype⟩
  · rintro ⟨front, segment, hcut, htype⟩
    obtain ⟨hpath, hdot⟩ := exists_of_cutLast_dot hcut
    refine ⟨_, _, hpath, hdot, ?_⟩
    rw [← isTypeSegment_iff, String.toList_ofList]
    exact htype

instance : DecidablePred EndsInType := fun path =>
  decidable_of_iff ((cutLast '.' path.toList).any (isTypeSegment ·.2) = true) (by
    rw [endsInType_iff, Option.any_eq_true]
    simp only [Prod.exists])

theorem parse_of_not_type
    {text : String} {front func : List Char} (hcut : cutLast '.' text.toList = some (front, func))
    (htype : ¬ ∃ package segment, cutLast '.' front = some (package, segment) ∧
      isTypeSegment segment = true) :
    parse text = ⟨String.ofList front, "", String.ofList func⟩ := by
  unfold parse parseChars
  cases hfront : cutLast '.' front with
  | none => simp [hcut, hfront]
  | some parts =>
      obtain ⟨package, segment⟩ := parts
      have hsegment : isTypeSegment segment = false := by
        rw [← Bool.not_eq_true]
        intro h
        exact htype ⟨package, segment, hfront, h⟩
      simp [hcut, hfront, hsegment]

/-- Every text is read by one of the three shapes. -/
theorem reads_parse
    (text : String) :
    Reads text (parse text) := by
  cases hcut : cutLast '.' text.toList with
  | none =>
      have hparse : parse text = ⟨"", "", text⟩ := by
        simp [parse, parseChars, hcut]
      rw [hparse]
      exact Reads.bare (cutLast_eq_none_iff.mp hcut)
  | some parts =>
      obtain ⟨front, func⟩ := parts
      obtain ⟨htext, hfunc⟩ := exists_of_cutLast_dot hcut
      by_cases hends : EndsInType (String.ofList front)
      · obtain ⟨package, segment, hcut', htype⟩ := (endsInType_iff _).mp hends
        obtain ⟨hfront, hdot⟩ := exists_of_cutLast_dot hcut'
        have hparse : parse text =
            ⟨String.ofList package, String.ofList segment, String.ofList func⟩ := by
          rw [String.toList_ofList] at hcut'
          simp [parse, parseChars, hcut, hcut', htype]
        rw [hparse, htext, hfront]
        refine Reads.method hfunc hdot ?_
        rw [← isTypeSegment_iff, String.toList_ofList]
        exact htype
      · have hparse : parse text = ⟨String.ofList front, "", String.ofList func⟩ := by
          rw [endsInType_iff, String.toList_ofList] at hends
          exact parse_of_not_type hcut hends
        rw [hparse, htext]
        exact Reads.function hfunc hends

theorem Reads.parse_eq
    {text : String} {s : Spec} (h : Reads text s) :
    parse text = s := by
  cases h with
  | bare hfunc => simp [parse, parseChars, cutLast_eq_none_iff.mpr hfunc]
  | @function package func hfunc htype =>
      rw [endsInType_iff] at htype
      rw [parse_of_not_type (cutLast_dot_append package hfunc) htype]
      simp
  | @method package type func hfunc hdot htype =>
      have hcut := cutLast_dot_append (package ++ "." ++ type) hfunc
      have hcut' := cutLast_dot_append package hdot
      have hsegment := (isTypeSegment_iff type).mpr htype
      simp only [parse, parseChars, hcut, hcut', hsegment, if_true, String.ofList_toList]

/-- Reading follows the shape of the text. -/
theorem parse_eq_iff
    (text : String) (s : Spec) :
    parse text = s ↔ Reads text s := by
  constructor
  · rintro rfl
    exact reads_parse text
  · exact Reads.parse_eq

theorem Reads.eq_of_function
    {text package func : String} (h : Reads text ⟨package, "", func⟩) (hpackage : package ≠ "") :
    text = package ++ "." ++ func := by
  cases h with
  | bare _ => exact absurd rfl hpackage
  | function _ _ => rfl
  | method _ _ htype => exact absurd htype not_isTypeName_empty

theorem Reads.eq_of_method
    {text package type func : String} (h : Reads text ⟨package, type, func⟩) (htype : type ≠ "") :
    text = package ++ "." ++ type ++ "." ++ func := by
  cases h with
  | bare _ => exact absurd rfl htype
  | function _ _ => exact absurd rfl htype
  | method _ _ _ => rfl

/-- The specification of a function: path of its package, receiver type and name. A method whose
receiver has no name has none. -/
def ofFunc? (f : Func) : Option Spec :=
  match f.package, f.signature with
  | some package, some signature =>
    match signature.receiver with
    | none => some ⟨package.path, "", f.name⟩
    | some receiver =>
      if receiver.specName = "" then none else some ⟨package.path, receiver.specName, f.name⟩
  | _, _ => none

/-- A function is matched by its own specification only. -/
theorem isMatch_iff
    (s : Spec) (f : Func) :
    s.isMatch f = true ↔ ofFunc? f = some s := by
  obtain ⟨package, type, func⟩ := s
  cases hpackage : f.package with
  | none => simp [isMatch, ofFunc?, hpackage]
  | some p =>
      cases hsignature : f.signature with
      | none => simp [isMatch, ofFunc?, hpackage, hsignature]
      | some signature =>
          cases hreceiver : signature.receiver with
          | none =>
              simp only [isMatch, ofFunc?, hpackage, hsignature, hreceiver, Bool.and_eq_true,
                decide_eq_true_eq, Option.some.injEq, mk.injEq]
              constructor
              · rintro ⟨hfunc, hpath, htype⟩
                exact ⟨hpath, htype.symm, hfunc⟩
              · rintro ⟨hpath, htype, hfunc⟩
                exact ⟨hfunc, hpath, htype.symm⟩
          | some receiver =>
              simp only [isMatch, ofFunc?, hpackage, hsignature, hreceiver, Bool.and_eq_true,
                decide_eq_true_eq]
              by_cases hname : receiver.specName = ""
              · rw [if_pos hname]
                constructor
                · rintro ⟨_, _, htype, hsame⟩
                  exact absurd (hsame.symm.trans hname) htype
                · intro h
                  cases h
              · rw [if_neg hname]
                simp only [Option.some.injEq, mk.injEq]
                constructor
                · rintro ⟨hfunc, hpath, _, htype⟩
                  exact ⟨hpath, htype, hfunc⟩
                · rintro ⟨hpath, rfl, hfunc⟩
                  exact ⟨hfunc, hpath, hname, rfl⟩

theorem anyMatch_iff
    (specs : List Spec) (f : Func) :
    anyMatch specs f = true ↔ ∃ s ∈ specs, ofFunc? f = some s := by
  unfold anyMatch
  simp only [List.any_eq_true, isMatch_iff]

/-- A text is an element of a comma-separated list, apart from white space around it. -/
def Lists (list text : String) : Prop :=
  ∃ part, IsElement ',' list.toList part ∧ IsTrimmed part text.toList

theorem lists_iff
    (list text : String) :
    Lists list text ↔ text.toList ∈ (list.toList.splitOn ',').map trim := by
  unfold Lists
  simp only [List.mem_map, mem_splitOn_iff, trim_eq_iff]

instance (list text : String) : Decidable (Lists list text) :=
  decidable_of_iff _ (lists_iff list text).symm

theorem mem_parseList
    (list : String) (s : Spec) :
    s ∈ parseList list ↔ ∃ text, Lists list text ∧ text ≠ "" ∧ parse text = s := by
  unfold parseList parse
  rw [List.mem_map]
  simp only [List.mem_filter, lists_iff]
  constructor
  · rintro ⟨core, ⟨hcore, hne⟩, hs⟩
    refine ⟨String.ofList core, ?_, ?_, ?_⟩
    · rw [String.toList_ofList]
      exact hcore
    · intro hempty
      rw [String.ofList_eq_empty_iff] at hempty
      simp [hempty] at hne
    · rw [String.toList_ofList]
      exact hs
  · rintro ⟨text, hcore, hne, hs⟩
    refine ⟨text.toList, ⟨hcore, ?_⟩, hs⟩
    simpa using hne

/-- The text of a function: the path of its package, the name of its receiver if it has one, and
its own name. The name has no dot. The path of a plain function must not end in what is taken for a
receiver type, and a receiver must be spelt like one. -/
inductive Designates : String → Func → Prop
  | function {f : Func} {package : Package} {signature : Signature}
      (hpackage : f.package = some package) (hsignature : f.signature = some signature)
      (hreceiver : signature.receiver = none)
      (hpath : package.path ≠ "") (hname : '.' ∉ f.name.toList)
      (htype : ¬ EndsInType package.path) :
      Designates (package.path ++ "." ++ f.name) f
  | method {f : Func} {package : Package} {signature : Signature} {receiver : ReceiverType}
      (hpackage : f.package = some package) (hsignature : f.signature = some signature)
      (hreceiver : signature.receiver = some receiver)
      (hpath : package.path ≠ "") (hname : '.' ∉ f.name.toList)
      (hdot : '.' ∉ receiver.specName.toList) (htype : IsTypeName receiver.specName) :
      Designates (package.path ++ "." ++ receiver.specName ++ "." ++ f.name) f

/-- The text of a function is the only one that is read as its specification. -/
theorem Designates.exists_spec
    {text : String} {f : Func} (h : Designates text f) :
    ∃ s, ofFunc? f = some s ∧ ∀ text', parse text' = s ↔ text' = text := by
  cases h with
  | @function _ package signature hpackage hsignature hreceiver hpath hname htype =>
      refine ⟨⟨package.path, "", f.name⟩, by simp [ofFunc?, hpackage, hsignature, hreceiver], ?_⟩
      intro text'
      rw [parse_eq_iff]
      constructor
      · intro h
        exact h.eq_of_function hpath
      · rintro rfl
        exact Reads.function hname htype
  | @method _ package signature receiver hpackage hsignature hreceiver hpath hname hdot htype =>
      have hne : receiver.specName ≠ "" := by
        intro hempty
        rw [hempty] at htype
        exact not_isTypeName_empty htype
      refine ⟨⟨package.path, receiver.specName, f.name⟩,
        by simp [ofFunc?, hpackage, hsignature, hreceiver, hne], ?_⟩
      intro text'
      rw [parse_eq_iff]
      constructor
      · intro h
        exact h.eq_of_method hne
      · rintro rfl
        exact Reads.method hname hdot htype

theorem Designates.ne_empty
    {text : String} {f : Func} (h : Designates text f) :
    text ≠ "" := by
  cases h with
  | function => simp
  | method => simp

/-- A list marks exactly the functions that it names: a function with a text of its own is matched
if and only if this text is an element of the list. A method whose receiver has no name is matched
by no list. -/
theorem anyMatch_parseList_iff_lists
    (list : String) (f : Func) :
    (∀ text, Designates text f → (anyMatch (parseList list) f = true ↔ Lists list text)) ∧
    (∀ signature receiver, f.signature = some signature → signature.receiver = some receiver →
      receiver.specName = "" → anyMatch (parseList list) f = false) := by
  constructor
  · intro text htext
    obtain ⟨s, hs, hparse⟩ := htext.exists_spec
    rw [anyMatch_iff]
    simp only [mem_parseList]
    constructor
    · rintro ⟨s', ⟨text', hlists, _, hs'⟩, hf⟩
      rw [hs] at hf
      cases hf
      rwa [(hparse text').mp hs'] at hlists
    · intro hlists
      exact ⟨s, ⟨text, hlists, htext.ne_empty, (hparse text).mpr rfl⟩, hs⟩
  · intro signature receiver hsignature hreceiver hname
    rw [← Bool.not_eq_true, anyMatch_iff]
    rintro ⟨s, _, hs⟩
    unfold ofFunc? at hs
    rw [hsignature] at hs
    cases hp : f.package with
    | none => simp [hp] at hs
    | some package => simp [hp, hreceiver, hname] at hs

/-- A method with a pointer receiver, in a package whose path has dots. -/
def decodeMethod : Func :=
  .declared
    { id := 0, name := "Decode", package := some { id := 0, path := "gopkg.in/yaml.v3" }
      signature := some { receiver := some (.pointer (.named "Node")), results := 1 }
      place := none }

/-- A plain function of the same package. -/
def marshalFunc : Func :=
  .declared
    { id := 1, name := "Marshal", package := some { id := 0, path := "gopkg.in/yaml.v3" }
      signature := some { receiver := none, results := 2 }, place := none }

/-- A method of an interface without a name. -/
def closeMethod : Func :=
  .declared
    { id := 2, name := "Close", package := some { id := 0, path := "gopkg.in/yaml.v3" }
      signature := some { receiver := some .unnamed, results := 1 }, place := none }

/-- A list that names the first of them, between blank elements, and seems to name the last. -/
theorem anyMatch_parseList_iff_lists_yaml :
    (Designates "gopkg.in/yaml.v3.Node.Decode" decodeMethod ∧
      Lists ", gopkg.in/yaml.v3.Node.Decode\t," "gopkg.in/yaml.v3.Node.Decode" ∧
      anyMatch (parseList ", gopkg.in/yaml.v3.Node.Decode\t,") decodeMethod = true) ∧
    (Designates "gopkg.in/yaml.v3.Marshal" marshalFunc ∧
      ¬ Lists ", gopkg.in/yaml.v3.Node.Decode\t," "gopkg.in/yaml.v3.Marshal" ∧
      ¬ anyMatch (parseList ", gopkg.in/yaml.v3.Node.Decode\t,") marshalFunc = true) ∧
    anyMatch (parseList "gopkg.in/yaml.v3.Close") closeMethod = false := by
  have hmethod : Designates "gopkg.in/yaml.v3.Node.Decode" decodeMethod :=
    @Designates.method decodeMethod ⟨0, "gopkg.in/yaml.v3"⟩ _ _ rfl rfl rfl
      (by decide) (by decide) (by decide) (by decide)
  have hfunc : Designates "gopkg.in/yaml.v3.Marshal" marshalFunc :=
    @Designates.function marshalFunc ⟨0, "gopkg.in/yaml.v3"⟩ _ rfl rfl rfl
      (by decide) (by decide) (by decide)
  have hlisted :
      Lists ", gopkg.in/yaml.v3.Node.Decode\t," "gopkg.in/yaml.v3.Node.Decode" := by
    decide
  have hunlisted : ¬ Lists ", gopkg.in/yaml.v3.Node.Decode\t," "gopkg.in/yaml.v3.Marshal" := by
    decide
  refine ⟨⟨hmethod, hlisted, ?_⟩, ⟨hfunc, hunlisted, ?_⟩, ?_⟩
  · exact ((anyMatch_parseList_iff_lists _ decodeMethod).1 _ hmethod).mpr hlisted
  · intro h
    exact hunlisted (((anyMatch_parseList_iff_lists _ marshalFunc).1 _ hfunc).mp h)
  · exact (anyMatch_parseList_iff_lists _ closeMethod).2 _ _ rfl rfl rfl

end Spec
end MustUse
