import Mathlib.Data.List.Forall2
import SchemaStructs.Proofs.Json.Spelling
import SchemaStructs.Proofs.Schema.Reachability

/-!
# Shapes that are alike

Being alike is an equivalence of shapes.  Where names and types are texts, alike shapes differ in
how their flags are given at most: they are equal as soon as flags are replaced by what they count
as (`Shape.plain_eq_of_alike`).  So the elements of alike shapes have children of the same names
(`Graph.map_rawName_inner_eq`).
-/

namespace SchemaStructs

theorem Json.eq_str_display {j : Json} (h : j.isText = true) : j = .str j.display := by
  cases j <;> simp_all [Json.isText, Json.display]

/-- A value that is alike to a text is this text. -/
theorem Json.eq_of_spelling_eq {a b : Json} (h : a.spelling = b.spelling)
    (hb : b.isText = true) : a = b := by
  rw [Json.eq_str_display hb] at h ⊢
  exact Json.eq_of_spelling_str h

/-- The name and type of an element and of its attributes are texts. -/
structure Element.Textual (e : Element) : Prop where
  /-- The name is a text. -/
  name : e.name.isText = true
  /-- The type is a text. -/
  type : e.type.isText = true
  /-- The names and types of the attributes are texts. -/
  attributes : ∀ a ∈ e.attributes, a.name.isText = true ∧ a.type.isText = true

instance (e : Element) : Decidable e.Textual :=
  decidable_of_iff (e.name.isText = true ∧ e.type.isText = true ∧
      ∀ a ∈ e.attributes, a.name.isText = true ∧ a.type.isText = true)
    ⟨fun ⟨hname, htype, hattributes⟩ => ⟨hname, htype, hattributes⟩,
      fun h => ⟨h.name, h.type, h.attributes⟩⟩

/-- The name and type of an element are texts, whatever its attributes are. -/
structure Element.Named (e : Element) : Prop where
  /-- The name is a text. -/
  name : e.name.isText = true
  /-- The type is a text. -/
  type : e.type.isText = true

theorem Element.Textual.named {e : Element} (h : e.Textual) : e.Named := ⟨h.name, h.type⟩

theorem Element.Named.fieldType {e : Element} (h : e.Named) : e.fieldType.isText = true := by
  unfold Element.fieldType
  split
  · exact h.name
  · exact h.type

theorem Element.Named.isFit {e : Element} (h : e.Named) : e.isFit = true := by
  have htype := Json.eq_str_display h.type
  rw [Element.isFit, htype]
  simp [Json.isContainer]

namespace Shape

variable {a b c : Shape}

theorem alike_iff : a.alike b = true ↔ a.key = b.key := beq_iff_eq

theorem alike_refl (a : Shape) : a.alike a = true := alike_iff.2 rfl

theorem alike_symm (h : a.alike b = true) : b.alike a = true :=
  alike_iff.2 (alike_iff.1 h).symm

theorem alike_trans (hab : a.alike b = true) (hbc : b.alike c = true) : a.alike c = true :=
  alike_iff.2 ((alike_iff.1 hab).trans (alike_iff.1 hbc))

/-! ### Flags as truth values -/

/-- A child in a shape, with its flags as truth values. -/
def plainChild : Json × Json × Json × Json → Json × Json × Json × Json
  | (name, type, repeated, characterData) =>
    (name, type, .bool repeated.truthy, .bool characterData.truthy)

/-- The shape with its flags as truth values. -/
def plain (a : Shape) : Shape :=
  { a with
    characterData := .bool a.characterData.truthy
    children := a.children.map plainChild }

/-- The names and types in a shape are texts. -/
structure Textual (a : Shape) : Prop where
  /-- The type is a text. -/
  type : a.type.isText = true
  /-- The names and types of the attributes are texts. -/
  attributes : ∀ p ∈ a.attributes, p.1.isText = true ∧ p.2.isText = true
  /-- The names and types of the children are texts. -/
  children : ∀ c ∈ a.children, c.1.isText = true ∧ c.2.1.isText = true

/-- Two lists with the same keys, where the keys of elements of the second are known to decide
something. -/
theorem map_eq_map_of_key {α β γ : Type} {key : α → β} {f : α → γ} {l l' : List α}
    (h : l.map key = l'.map key) (hf : ∀ x, ∀ y ∈ l', key x = key y → f x = f y) :
    l.map f = l'.map f := by
  induction l generalizing l' with
  | nil =>
    obtain rfl := List.map_eq_nil_iff.1 h.symm
    rfl
  | cons x l ih =>
    cases l' with
    | nil => cases h
    | cons y l' =>
      obtain ⟨hxy, hrest⟩ := List.cons.inj h
      rw [List.map_cons, List.map_cons, hf x y List.mem_cons_self hxy,
        ih hrest fun x y hy => hf x y (List.mem_cons_of_mem _ hy)]

/-- **Alike shapes of texts differ in how their flags are given at most.** -/
theorem plain_eq_of_alike (h : a.alike b = true) (hb : b.Textual) : a.plain = b.plain := by
  have hkey := alike_iff.1 h
  simp only [key, Prod.mk.injEq] at hkey
  obtain ⟨htype, hdata, hattributes, hchildren⟩ := hkey
  have hattributes' : a.attributes.map id = b.attributes.map id :=
    map_eq_map_of_key hattributes fun x y hy hxy => by
      simp only [Prod.mk.injEq] at hxy
      exact Prod.ext (Json.eq_of_spelling_eq hxy.1 (hb.attributes y hy).1)
        (Json.eq_of_spelling_eq hxy.2 (hb.attributes y hy).2)
  have hchildren' : a.children.map plainChild = b.children.map plainChild :=
    map_eq_map_of_key hchildren fun x y hy hxy => by
      simp only [Prod.mk.injEq] at hxy
      simp only [plainChild, Json.eq_of_spelling_eq hxy.1 (hb.children y hy).1,
        Json.eq_of_spelling_eq hxy.2.1 (hb.children y hy).2, Json.truthy_congr hxy.2.2.1,
        Json.truthy_congr hxy.2.2.2]
  rw [List.map_id, List.map_id] at hattributes'
  simp only [plain, hattributes', hchildren', Json.eq_of_spelling_eq htype hb.type,
    Json.truthy_congr hdata]

end Shape

namespace Graph

variable {g : Graph} {i j : ElementId}

theorem shape_textual (hi : (g.get i).Textual) (hchildren : ∀ c ∈ g.children i, (g.get c).Textual) :
    (g.shape i).Textual := by
  refine ⟨hi.type, ?_, ?_⟩
  · simpa [shape] using hi.attributes
  · intro p hp
    obtain ⟨c, hc, rfl⟩ := List.mem_map.1 hp
    exact ⟨(hchildren c hc).name, (hchildren c hc).type⟩

/-- The children of an element that are not primitive. -/
def inner (g : Graph) (is : List ElementId) : List ElementId := is.filter (!g.isPrimitive ·)

theorem inner_cons_of_primitive {is : List ElementId} (h : g.isPrimitive i = true) :
    g.inner (i :: is) = g.inner is := by
  simp [inner, h]

theorem inner_cons {is : List ElementId} (h : g.isPrimitive i = false) :
    g.inner (i :: is) = i :: g.inner is := by
  simp [inner, h]

/-- The name that the entry of a child in a shape tells, unless the child is primitive. -/
def innerName? : Json × Json × Json × Json → Option Json
  | (name, type, _, characterData) =>
    if !characterData.truthy && isPrimitiveType type then none else some name

/-- The names of the children of an element that are not primitive are told by its shape. -/
theorem map_rawName_inner (g : Graph) (i : ElementId) :
    (g.inner (g.children i)).map g.rawName = (g.shape i).plain.children.filterMap innerName? := by
  have hentry : ∀ c : ElementId, innerName? (Shape.plainChild ((g.get c).name, (g.get c).type,
      (g.get c).repeated, (g.get c).characterData)) =
        if g.isPrimitive c then none else some (g.rawName c) := fun _ => rfl
  simp only [Shape.plain, shape, children, List.map_map, List.filterMap_map, Function.comp_def,
    hentry]
  induction (g.get i).children with
  | nil => rfl
  | cons c rest ih =>
    cases hp : g.isPrimitive c with
    | true => rw [inner_cons_of_primitive hp, ih, List.filterMap_cons, hp]; rfl
    | false => rw [inner_cons hp, List.map_cons, ih, List.filterMap_cons, hp]; rfl

/-- Elements of alike shapes have children of the same names that are not primitive. -/
theorem map_rawName_inner_eq (h : (g.shape i).alike (g.shape j) = true)
    (hj : (g.shape j).Textual) :
    (g.inner (g.children i)).map g.rawName = (g.inner (g.children j)).map g.rawName := by
  rw [map_rawName_inner, map_rawName_inner, Shape.plain_eq_of_alike h hj]

end Graph

end SchemaStructs
