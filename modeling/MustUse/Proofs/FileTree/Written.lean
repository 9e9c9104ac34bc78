import MustUse.FileTree.Path
import MustUse.Proofs.Text.Element

/-!
# Written paths

An absolute path is written with a slash before each element. Taken apart at the slashes and put
together element by element, a text gives a path; the texts that give themselves back are the clean
ones. On clean texts, the directory of a path and the place of a name in it are found by writing,
and this is the same as going to the tail of the path and adding an element to it.

Main definitions:

- `Path.IsProper`: the paths that can be written;
- `Path.clean`, `Path.IsClean`: the clean form of an absolute text, and the texts in this form;
- `Path.join`, `Path.parent`: a name in a written directory, and the directory of a written path.

Main statements:

- `Path.resolve_text`, `Path.IsClean.exists_path`: clean texts are the written forms of paths;
- `Path.join_text`, `Path.parent_text`: what the operations on texts do to paths;
- `Path.parent_text_eq_self_iff`: only the root is its own directory.
-/

namespace MustUse
namespace FileTree
namespace Path

open Text

/-- A text that can stand between two slashes of a clean path. -/
structure IsElementName (name : String) : Prop where
  ne_empty : name ≠ ""
  ne_dot : name ≠ "."
  ne_dots : name ≠ ".."
  slash_not_mem : '/' ∉ name.toList

/-- A path whose elements can all be written. -/
def IsProper (p : Path) : Prop :=
  ∀ name ∈ p, IsElementName name

/-- The clean form of an absolute text: no empty elements, no dots, no double dots. -/
def clean (s : String) : String :=
  text (resolve [] s)

/-- An absolute text in its clean form. -/
def IsClean (s : String) : Prop :=
  isAbsolute s = true ∧ clean s = s

instance (s : String) : Decidable (IsClean s) :=
  inferInstanceAs (Decidable (_ ∧ _))

/-- The name `name` in the directory written `dir`. -/
def join (dir name : String) : String :=
  clean (dir ++ "/" ++ name)

/-- The directory of a written path: the text up to its last slash, in its clean form. -/
def parent (s : String) : String :=
  match cutLast '/' s.toList with
  | some (front, _) => clean (String.ofList front ++ "/")
  | none => "."

section Elements

theorem elements_append
    (left right : String) :
    elements (left ++ "/" ++ right) = elements left ++ elements right := by
  have hchars : (left ++ "/" ++ right).toList = left.toList ++ '/' :: right.toList := by
    simp
  unfold elements
  rw [hchars, List.splitOn_append_cons_self, List.map_append]

theorem IsElementName.elements_eq
    {name : String} (h : IsElementName name) :
    elements name = [name] := by
  unfold elements
  rw [List.splitOn_eq_singleton h.slash_not_mem]
  simp

theorem IsElementName.step_eq
    {name : String} (h : IsElementName name) (p : Path) :
    step p name = name :: p := by
  simp [step, h.ne_empty, h.ne_dot, h.ne_dots]

theorem not_mem_of_mem_elements
    {s name : String} (h : name ∈ elements s) :
    '/' ∉ name.toList := by
  obtain ⟨part, hpart, rfl⟩ := List.mem_map.mp h
  rw [String.toList_ofList]
  exact (isElement_of_mem_splitOn hpart).1

theorem isProper_cons
    {name : String} {p : Path} :
    IsProper (name :: p) ↔ IsElementName name ∧ IsProper p :=
  List.forall_mem_cons

theorem IsProper.tail
    {p : Path} (h : IsProper p) :
    IsProper p.tail := by
  intro name hname
  exact h name (List.mem_of_mem_tail hname)

theorem IsProper.step
    {p : Path} (h : IsProper p) {name : String} (hname : '/' ∉ name.toList) :
    IsProper (step p name) := by
  unfold Path.step
  split
  · exact h
  · rename_i hempty
    split
    · exact h.tail
    · rename_i hdots
      simp only [Bool.or_eq_true, decide_eq_true_eq, not_or] at hempty
      exact isProper_cons.mpr ⟨⟨hempty.1, hempty.2, hdots, hname⟩, h⟩

theorem isProper_foldl_step
    {names : List String} (hnames : ∀ name ∈ names, '/' ∉ name.toList) {p : Path}
    (h : IsProper p) :
    IsProper (names.foldl step p) := by
  induction names generalizing p with
  | nil => exact h
  | cons name names ih =>
      rw [List.foldl_cons]
      refine ih ?_ (h.step (hnames name List.mem_cons_self))
      intro other hother
      exact hnames other (List.mem_cons_of_mem name hother)

end Elements

/-- What is written before the slash in front of a further element: nothing for the root. -/
def front (p : Path) : String :=
  if p = [] then "" else text p

theorem front_cons
    (name : String) (p : Path) :
    front (name :: p) = text (name :: p) := by
  rw [front, if_neg (List.cons_ne_nil name p)]

theorem text_cons
    (name : String) (p : Path) :
    text (name :: p) = front p ++ "/" ++ name := by
  unfold front
  by_cases hp : p = []
  · simp [hp, text, joinWith]
  · have hne : p.reverse ≠ [] := by simpa using hp
    rw [if_neg hp, text, text, List.reverse_cons, joinWith_append_singleton "/" hne]
    simp only [String.append_assoc]

theorem foldl_step_front
    {p : Path} (h : IsProper p) :
    (elements (front p)).foldl step [] = p := by
  induction p with
  | nil => rfl
  | cons name p ih =>
      obtain ⟨hname, hp⟩ := isProper_cons.mp h
      rw [front_cons, text_cons, elements_append, hname.elements_eq, List.foldl_append, ih hp]
      exact hname.step_eq p

theorem isAbsolute_text
    (p : Path) :
    isAbsolute (text p) = true := by
  simp [isAbsolute, text]

theorem resolve_of_isAbsolute
    (cwd : Path) {s : String} (h : isAbsolute s = true) :
    resolve cwd s = resolve [] s := by
  simp [resolve, h]

theorem foldl_step_text
    {p : Path} (h : IsProper p) :
    (elements (text p)).foldl step [] = p := by
  cases p with
  | nil => rfl
  | cons name p =>
      rw [← front_cons, foldl_step_front h]

/-- A path is read from its written form, wherever one stands. -/
theorem resolve_text
    (cwd : Path) {p : Path} (h : IsProper p) :
    resolve cwd (text p) = p := by
  rw [resolve, if_pos (isAbsolute_text p), foldl_step_text h]

theorem isProper_resolve
    (s : String) :
    IsProper (resolve [] s) := by
  unfold resolve
  rw [ite_self]
  apply isProper_foldl_step
  · intro name hname
    exact not_mem_of_mem_elements hname
  · intro name hname
    cases hname

/-- A clean text is the written form of the path that it names. -/
theorem IsClean.exists_path
    {s : String} (h : IsClean s) (cwd : Path) :
    IsProper (resolve cwd s) ∧ text (resolve cwd s) = s := by
  rw [resolve_of_isAbsolute cwd h.1]
  exact ⟨isProper_resolve s, h.2⟩

theorem join_text
    {p : Path} (h : IsProper p) {name : String} (hname : IsElementName name) :
    join (text p) name = text (name :: p) := by
  unfold join clean resolve
  rw [ite_self, elements_append, List.foldl_append, foldl_step_text h, hname.elements_eq]
  exact congrArg text (hname.step_eq p)

theorem parent_text
    {p : Path} (h : IsProper p) :
    parent (text p) = text p.tail := by
  cases p with
  | nil => rfl
  | cons name p =>
      obtain ⟨hname, hp⟩ := isProper_cons.mp h
      have hcut : cutLast '/' (text (name :: p)).toList = some ((front p).toList, name.toList) := by
        have hchars : (text (name :: p)).toList = (front p).toList ++ '/' :: name.toList := by
          rw [text_cons]
          simp
        rw [hchars, cutLast_append '/' _ hname.slash_not_mem]
      have hclean : clean (front p ++ "/") = text p := by
        have hrest : front p ++ "/" = front p ++ "/" ++ "" := by simp
        unfold clean resolve
        rw [ite_self, hrest, elements_append, List.foldl_append, foldl_step_front hp]
        rfl
      simp only [parent, hcut, String.ofList_toList, hclean, List.tail_cons]

/-- Only the root is its own directory. -/
theorem parent_text_eq_self_iff
    {p : Path} (h : IsProper p) :
    parent (text p) = text p ↔ p = [] := by
  rw [parent_text h]
  constructor
  · intro htext
    have hpath : p.tail = p := by
      have hresolve := congrArg (resolve []) htext
      rwa [resolve_text [] h.tail, resolve_text [] h] at hresolve
    cases p with
    | nil => rfl
    | cons name p => exact absurd hpath.symm (List.cons_ne_self name p)
  · rintro rfl
    rfl

end Path
end FileTree
end MustUse
