import MustUse.Proofs.Scan.Documentation

/-!
# A callee stands for what its core is bound to

Parentheses and explicit instantiations are layers around the core of a callee, and they may be
nested in any order. They are taken off in two ways that come to the same: one layer after the
other, whatever it is, or all parentheses first and then one instantiation, and so on. What remains
is an identifier or a selector with its binding. So the arguments of an index, the type arguments
and the operand of a selector have no influence.

Main definitions:

- `IsLayer`, `CoreOf`: layers, and the callee without them;
- `Binds`: the object that a core is bound to;
- `Unparen`, `LooksUp`: the look-up that takes off all parentheses before each instantiation;
- `SameBindings`: cores that differ only in what has no influence.

Main statements:

- `looksUp_iff`: both ways of taking off layers come to the same;
- `resolve_depends_on_core`: which function a callee stands for.
-/

namespace MustUse
namespace Scan

open Syntax

/-- Nodes of this kind are layers around a callee: parentheses, or an instantiation with one or with
several arguments. -/
def IsLayer (k : Kind) : Prop :=
  k = .paren ∨ k = .index ∨ k = .indexList

/-- What remains of a callee when every layer has been replaced by its operand. A layer without an
operand leaves nothing. -/
inductive CoreOf : Node → Node → Prop
  | self
      {n : Node}
      (hkind : ¬ IsLayer n.kind) :
      CoreOf n n
  | layer
      {n operand core : Node}
      (hkind : IsLayer n.kind)
      (hoperand : n.child? .x = some operand)
      (hcore : CoreOf operand core) :
      CoreOf n core

/-- The object that the core of a callee is bound to. The selected name counts only where the
selector has no selection of its own. -/
inductive Binds : Node → Obj → Prop
  | ident
      {n : Node} {obj : Obj}
      (hkind : n.kind = .ident)
      (huse : n.attrs.use = some obj) :
      Binds n obj
  | selection
      {n : Node} {obj : Obj}
      (hkind : n.kind = .selector)
      (hselection : n.attrs.selection = some obj) :
      Binds n obj
  | qualified
      {n name : Node} {obj : Obj}
      (hkind : n.kind = .selector)
      (hselection : n.attrs.selection = none)
      (hname : n.child? .sel = some name)
      (huse : name.attrs.use = some obj) :
      Binds n obj

/-- The callee without the parentheses around it. -/
inductive Unparen : Node → Node → Prop
  | self
      {n : Node}
      (hkind : n.kind ≠ .paren) :
      Unparen n n
  | parens
      {n operand inner : Node}
      (hkind : n.kind = .paren)
      (hoperand : n.child? .x = some operand)
      (hinner : Unparen operand inner) :
      Unparen n inner

/-- The object that a callee is looked up to. All parentheses are taken off first; an instantiation
is looked up through its operand, and anything else is bound or not. -/
inductive LooksUp : Node → Obj → Prop
  | bound
      {callee inner : Node} {obj : Obj}
      (hinner : Unparen callee inner)
      (hbinds : Binds inner obj) :
      LooksUp callee obj
  | instantiation
      {callee inner operand : Node} {obj : Obj}
      (hinner : Unparen callee inner)
      (hkind : inner.kind = .index ∨ inner.kind = .indexList)
      (hoperand : inner.child? .x = some operand)
      (hlook : LooksUp operand obj) :
      LooksUp callee obj

/-- Two cores are of one kind and have the same bindings. Their operands may differ. -/
structure SameBindings (core core' : Node) : Prop where
  kind_eq : core'.kind = core.kind
  use_eq : core'.attrs.use = core.attrs.use
  selection_eq : core'.attrs.selection = core.attrs.selection
  name_eq : (core'.child? .sel).bind (·.attrs.use) = (core.child? .sel).bind (·.attrs.use)

theorem core?_of_isLayer
    {n : Node} (h : IsLayer n.kind) :
    core? n = (n.child? .x).bind core? :=
  (core?_eq n).trans (if_pos h)

theorem core?_of_not_isLayer
    {n : Node} (h : ¬ IsLayer n.kind) :
    core? n = some n :=
  (core?_eq n).trans (if_neg h)

/-- The core is found, if there is one. -/
theorem CoreOf.core?_eq_some
    {n core : Node} (h : CoreOf n core) :
    core? n = some core := by
  induction h with
  | self hkind => exact core?_of_not_isLayer hkind
  | layer hkind hoperand _ ih => rw [core?_of_isLayer hkind, hoperand, Option.bind_some, ih]

/-- What is found is the core. -/
theorem coreOf_of_core?_eq_some
    {n core : Node} (h : core? n = some core) :
    CoreOf n core := by
  induction n using Node.induct with
  | step k s a cs ih =>
      by_cases hkind : IsLayer (Node.mk k s a cs).kind
      · rw [core?_of_isLayer hkind, Option.bind_eq_some_iff] at h
        obtain ⟨operand, hoperand, hcore⟩ := h
        exact CoreOf.layer hkind hoperand
          (ih operand (List.mem_of_find?_eq_some hoperand) hcore)
      · rw [core?_of_not_isLayer hkind] at h
        cases h
        exact CoreOf.self hkind

theorem core?_eq_some_iff
    (n core : Node) :
    core? n = some core ↔ CoreOf n core := by
  constructor
  · exact coreOf_of_core?_eq_some
  · exact CoreOf.core?_eq_some

theorem CoreOf.unique
    {n core core' : Node} (h : CoreOf n core) (h' : CoreOf n core') :
    core = core' :=
  Option.some.inj (h.core?_eq_some.symm.trans h'.core?_eq_some)

theorem binding?_eq_some_iff
    (n : Node) (obj : Obj) :
    binding? n = some obj ↔ Binds n obj := by
  constructor
  · intro h
    unfold binding? at h
    split at h
    · rename_i hkind
      exact Binds.ident hkind h
    · rename_i hkind
      cases hselection : n.attrs.selection with
      | some chosen =>
          rw [hselection] at h
          exact Binds.selection hkind (hselection.trans h)
      | none =>
          rw [hselection] at h
          obtain ⟨name, hname, huse⟩ := Option.bind_eq_some_iff.mp h
          exact Binds.qualified hkind hselection hname huse
    · cases h
  · intro h
    cases h with
    | ident hkind huse => simp [binding?, hkind, huse]
    | selection hkind hselection => simp [binding?, hkind, hselection]
    | qualified hkind hselection hname huse => simp [binding?, hkind, hselection, hname, huse]

theorem Binds.not_isLayer
    {n : Node} {obj : Obj} (h : Binds n obj) :
    ¬ IsLayer n.kind := by
  unfold IsLayer
  cases h with
  | ident hkind _ => simp [hkind]
  | selection hkind _ => simp [hkind]
  | qualified hkind _ _ _ => simp [hkind]

/-- Parentheses around a callee do not change its core. -/
theorem CoreOf.of_unparen
    {n inner core : Node} (hinner : Unparen n inner) (hcore : CoreOf inner core) :
    CoreOf n core := by
  induction hinner with
  | self _ => exact hcore
  | parens hkind hoperand _ ih => exact CoreOf.layer (Or.inl hkind) hoperand (ih hcore)

theorem LooksUp.parens
    {n operand : Node} {obj : Obj} (hkind : n.kind = .paren) (hoperand : n.child? .x = some operand)
    (h : LooksUp operand obj) :
    LooksUp n obj := by
  cases h with
  | bound hinner hbinds => exact LooksUp.bound (Unparen.parens hkind hoperand hinner) hbinds
  | instantiation hinner hindex hnext hlook =>
      exact LooksUp.instantiation (Unparen.parens hkind hoperand hinner) hindex hnext hlook

theorem LooksUp.exists_coreOf
    {n : Node} {obj : Obj} (h : LooksUp n obj) :
    ∃ core, CoreOf n core ∧ Binds core obj := by
  induction h with
  | @bound _ inner _ hinner hbinds =>
      exact ⟨inner, CoreOf.of_unparen hinner (CoreOf.self hbinds.not_isLayer), hbinds⟩
  | instantiation hinner hkind hoperand _ ih =>
      obtain ⟨core, hcore, hbinds⟩ := ih
      exact ⟨core, CoreOf.of_unparen hinner (CoreOf.layer (Or.inr hkind) hoperand hcore), hbinds⟩

/-- Parentheses join those that are taken off next, an instantiation is a step of its own. -/
theorem CoreOf.looksUp
    {n core : Node} (h : CoreOf n core) {obj : Obj} (hbinds : Binds core obj) :
    LooksUp n obj := by
  induction h with
  | self hkind =>
      refine LooksUp.bound (Unparen.self ?_) hbinds
      intro hparen
      exact hkind (Or.inl hparen)
  | layer hkind hoperand _ ih =>
      rcases hkind with hparen | hindex
      · exact LooksUp.parens hparen hoperand (ih hbinds)
      · refine LooksUp.instantiation (Unparen.self ?_) hindex hoperand (ih hbinds)
        rcases hindex with hindex | hindex <;> simp [hindex]

/-- A callee is looked up to what its core is bound to, in whichever order the layers stand. -/
theorem looksUp_iff
    (n : Node) (obj : Obj) :
    LooksUp n obj ↔ ∃ core, CoreOf n core ∧ Binds core obj := by
  constructor
  · exact LooksUp.exists_coreOf
  · rintro ⟨core, hcore, hbinds⟩
    exact hcore.looksUp hbinds

theorem calleeFunc?_eq_some_iff
    (callee : Node) (f : Func) :
    calleeFunc? callee = some f ↔
      ∃ core g, CoreOf callee core ∧ Binds core (.func g) ∧ g.origin = f := by
  unfold calleeFunc?
  simp only [Option.map_eq_some_iff, Option.bind_eq_some_iff, core?_eq_some_iff,
    binding?_eq_some_iff]
  constructor
  · rintro ⟨g, ⟨obj, ⟨core, hcore, hbinds⟩, hfunc⟩, horigin⟩
    cases obj with
    | func g' =>
        cases hfunc
        exact ⟨core, g, hcore, hbinds, horigin⟩
    | other id => cases hfunc
  · rintro ⟨core, g, hcore, hbinds, horigin⟩
    exact ⟨g, ⟨.func g, ⟨core, hcore, hbinds⟩, rfl⟩, horigin⟩

theorem resolve_eq_found_iff
    (callee : Node) (f : Func) :
    resolve callee = .found f ↔ calleeFunc? callee = some f := by
  unfold resolve
  cases calleeFunc? callee with
  | none => simp
  | some g => simp

theorem resolve_eq_unknown
    {callee : Node} (h : ∀ f, calleeFunc? callee ≠ some f) :
    resolve callee = .unknown := by
  have hnone : calleeFunc? callee = none := Option.eq_none_iff_forall_ne_some.mpr h
  simp only [resolve, hnone]

/-- Cores with the same bindings are bound to the same objects. -/
theorem SameBindings.binding?_eq
    {core core' : Node} (h : SameBindings core core') :
    binding? core' = binding? core := by
  simp only [binding?, h.kind_eq, h.use_eq, h.selection_eq, h.name_eq]

theorem calleeFunc?_of_coreOf
    {callee core : Node} (h : CoreOf callee core) :
    calleeFunc? callee = ((binding? core).bind Obj.func?).map Func.origin := by
  rw [calleeFunc?, h.core?_eq_some, Option.bind_some]

/-- A callee stands for the origin of the function that its core is bound to, and for no function if
the core is bound to something else or to nothing, or if there is no core. What a callee stands for
is its own origin. Looking it up with all parentheses taken off before each instantiation gives the
same. Nothing else has an influence: callees whose cores are of one kind and have the same bindings
stand for the same function, whatever layers there are around them with whatever arguments, and
whatever a selector selects from. -/
theorem resolve_depends_on_core
    (callee : Node) :
    (∀ core, CoreOf callee core →
      (∀ g, Binds core (.func g) → resolve callee = .found g.origin) ∧
      ((∀ g, ¬ Binds core (.func g)) → resolve callee = .unknown)) ∧
    ((∀ core, ¬ CoreOf callee core) → resolve callee = .unknown) ∧
    (∀ f, resolve callee = .found f → f.origin = f) ∧
    (∀ f, resolve callee = .found f ↔ ∃ g, LooksUp callee (.func g) ∧ g.origin = f) ∧
    ∀ callee' core core', CoreOf callee core → CoreOf callee' core' → SameBindings core core' →
      resolve callee' = resolve callee := by
  refine ⟨?_, ?_, ?_, ?_, ?_⟩
  · intro core hcore
    constructor
    · intro g hbinds
      rw [resolve_eq_found_iff, calleeFunc?_eq_some_iff]
      exact ⟨core, g, hcore, hbinds, rfl⟩
    · intro hunbound
      apply resolve_eq_unknown
      intro f hf
      obtain ⟨core', g, hcore', hbinds, _⟩ := (calleeFunc?_eq_some_iff callee f).mp hf
      rw [hcore'.unique hcore] at hbinds
      exact hunbound g hbinds
  · intro hempty
    apply resolve_eq_unknown
    intro f hf
    obtain ⟨core, _, hcore, _⟩ := (calleeFunc?_eq_some_iff callee f).mp hf
    exact hempty core hcore
  · intro f hf
    rw [resolve_eq_found_iff, calleeFunc?_eq_some_iff] at hf
    obtain ⟨_, g, _, _, rfl⟩ := hf
    exact g.origin_origin
  · intro f
    rw [resolve_eq_found_iff, calleeFunc?_eq_some_iff]
    simp only [looksUp_iff]
    constructor
    · rintro ⟨core, g, hcore, hbinds, horigin⟩
      exact ⟨g, ⟨core, hcore, hbinds⟩, horigin⟩
    · rintro ⟨g, ⟨core, hcore, hbinds⟩, horigin⟩
      exact ⟨core, g, hcore, hbinds, horigin⟩
  · intro callee' core core' hcore hcore' hsame
    have hfunc : calleeFunc? callee' = calleeFunc? callee := by
      rw [calleeFunc?_of_coreOf hcore, calleeFunc?_of_coreOf hcore', hsame.binding?_eq]
    simp only [resolve, hfunc]

/-- A generic function. -/
def mapFunc : Declaration :=
  { id := 0, name := "Map", package := none
    signature := some { receiver := none, results := 1 }, place := none }

/-- A selector `operand.Map`. The selected name is bound to the function; the selector may have a
selection of its own. -/
def mapSelector (operand : String) (selection : Option Obj) : Node :=
  .mk .selector .x { selection := selection }
    [.mk .ident .x { name := operand } [],
      .mk .ident .sel { name := "Map", use := some (.func (.instantiated 1 mapFunc)) } []]

/-- The callee `((operand.Map)[arg])`. -/
def mapCallee (operand arg : String) (selection : Option Obj) : Node :=
  .mk .paren .fn {}
    [.mk .index .x {}
      [.mk .paren .x {} [mapSelector operand selection], .mk .ident .index { name := arg } []]]

theorem coreOf_mapCallee
    (operand arg : String) (selection : Option Obj) :
    CoreOf (mapCallee operand arg selection) (mapSelector operand selection) := by
  have hselector : ¬ IsLayer .selector := by
    unfold IsLayer
    decide
  exact CoreOf.layer (Or.inl rfl) rfl (CoreOf.layer (Or.inr (Or.inl rfl)) rfl
    (CoreOf.layer (Or.inl rfl) rfl (CoreOf.self hselector)))

/-- A qualified name in three layers, the same with another package and another argument, and a
field that is no function. -/
theorem resolve_depends_on_core_map :
    resolve (mapCallee "list" "int" none) = .found (.declared mapFunc) ∧
    resolve (mapCallee "seq" "string" none) = resolve (mapCallee "list" "int" none) ∧
    resolve (mapCallee "list" "int" (some (.other 3))) = .unknown := by
  refine ⟨?_, ?_, ?_⟩
  · exact ((resolve_depends_on_core _).1 _ (coreOf_mapCallee "list" "int" none)).1
      (.instantiated 1 mapFunc) (Binds.qualified rfl rfl rfl rfl)
  · exact (resolve_depends_on_core _).2.2.2.2 _ _ _ (coreOf_mapCallee "list" "int" none)
      (coreOf_mapCallee "seq" "string" none) ⟨rfl, rfl, rfl, rfl⟩
  · refine ((resolve_depends_on_core _).1 _ (coreOf_mapCallee "list" "int" (some (.other 3)))).2 ?_
    intro g hbinds
    cases hbinds with
    | ident hkind _ => cases hkind
    | selection _ hselection => cases hselection
    | qualified _ hselection _ _ => cases hselection

end Scan
end MustUse
