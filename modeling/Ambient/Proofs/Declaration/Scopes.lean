/-
  Ambient.Proofs.Declaration.Scopes

  What the namespaces of a run decide about its declarations. Types see them only by how they qualify
  names, so two runs whose namespaces qualify every name alike (`Scopes.Agree`) declare the same
  entries in the same way, and the modules of a namespace matter only by the rows of their classes
  and of their enums (`Generator.declarations_congr`).
-/
import Ambient.Declaration.Emission
import Ambient.Proofs.Keeping

namespace Ambient

/-! ## Agreement -/

/-- Two sets of namespaces qualify every name alike, and both or none of them need no namespaces. -/
structure Scopes.Agree (scopes scopes' : Scopes) : Prop where
  isSingle : scopes.isSingle = scopes'.isSingle
  qualify : ∀ name scope, scopes.qualify name scope = scopes'.qualify name scope

/-- Where there is only one namespace, it does not matter what it is called. -/
theorem Scopes.agree_of_isSingle {scopes scopes' : Scopes} (h : scopes.isSingle = true)
    (h' : scopes'.isSingle = true) : scopes.Agree scopes' where
  isSingle := h.trans h'.symm
  qualify name scope := by
    simp only [Scopes.qualify, h, h', Bool.true_or, if_true]

/-! ## Types -/

namespace TypeExpr

variable {scopes scopes' : Scopes}

mutual

theorem text_congr (h : scopes.Agree scopes') : ∀ t : TypeExpr, t.text scopes = t.text scopes'
  | .primitive _ => rfl
  | .array element => by rw [text, text, text_congr h element]
  | .tuple elements => by rw [text, text, texts_congr h elements]
  | .map key value => by rw [text, text, text_congr h key, text_congr h value]
  | .reference _ _ _ arguments => by rw [text, text, texts_congr h arguments, h.qualify]
  | .parameter _ => rfl
  | .unknown _ => rfl

theorem texts_congr (h : scopes.Agree scopes') :
    ∀ ts : List TypeExpr, texts scopes ts = texts scopes' ts
  | [] => rfl
  | t :: ts => by rw [texts, texts, text_congr h t, texts_congr h ts]

end

/-- Types that cannot be written under one set of namespaces cannot under the other. -/
theorem text?_congr (h : scopes.Agree scopes') (t : TypeExpr) :
    t.text? scopes = t.text? scopes' := by
  rw [text?, text?, h.isSingle, text_congr h]

end TypeExpr

/-! ## Declarations -/

namespace Generator

variable (g : Generator) {scopes scopes' : Scopes}

theorem interface_congr (h : scopes.Agree scopes') (entry : ClassEntry) :
    g.interface scopes entry = g.interface scopes' entry := by
  have hproperty : g.property scopes = g.property scopes' := by
    funext p
    rw [property, property, TypeRef.text?, TypeRef.text?, TypeExpr.text?_congr h]
  rw [interface, interface, hproperty]

/-- The declarations of a namespace are made of the classes and of the enums of its modules, each kind
in a row. -/
theorem declarations_congr (h : scopes.Agree scopes') (output : Output)
    {modules modules' : List Module}
    (hclasses : modules.flatMap (·.classes) = modules'.flatMap (·.classes))
    (henums : modules.flatMap (·.enums) = modules'.flatMap (·.enums)) :
    g.declarations scopes output modules = g.declarations scopes' output modules' := by
  have hinterfaces : g.interfaces scopes modules = g.interfaces scopes' modules' := by
    rw [interfaces, interfaces, hclasses, funext (g.interface_congr h)]
  have henums' : g.enums modules = g.enums modules' := by
    rw [enums, enums, henums]
  rw [declarations, declarations, hinterfaces, henums']

/-- Modules without entries declare nothing. -/
theorem declarations_of_empty (scopes : Scopes) (output : Output) {modules : List Module}
    (hclasses : modules.flatMap (·.classes) = []) (henums : modules.flatMap (·.enums) = []) :
    g.declarations scopes output modules = .ok [] := by
  have hinterfaces : g.interfaces scopes modules = .ok [] := by
    rw [interfaces, hclasses]
    rfl
  have henums' : g.enums modules = .ok [] := by
    rw [enums, henums]
    rfl
  rw [declarations, hinterfaces, henums']
  cases output.properties <;> cases output.enums <;> rfl

end Generator

end Ambient
