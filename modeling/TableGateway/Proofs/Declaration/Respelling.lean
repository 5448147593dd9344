import Mathlib.Logic.Relation
import TableGateway.Proofs.Declaration.Field

/-! # Attributes of a field, written otherwise

What a field is marked as and how its column is called may be written in one attribute or in several, among attributes
that are not about the mapping, in any order and more than once. Only names of the column must not pass each other,
as the last one counts. Each change of this sort keeps the names of the column and the set of all entries, and nothing
else of the entries matters: whether the field has a column, and which.

* `Respelling` : one change
* `Alike` : fields whose entries say the same; `alike_of_respelling` is one change, `alike_of_eqvGen` any number
* `Alike.member_eq_ok_iff` : such fields have the same column
* `respelling_keeps_column` : so attributes may be written in any of these ways -/

namespace TableGateway.Declaration

/-! ### Changes -/

/-- An attribute about the mapping, with its entries. -/
def mapping (items : List Item) : Attribute := ⟨"orm", .items items⟩

/-- The entries that name the column. -/
def columnEntries (attributes : List Attribute) : List Item := (entries attributes).filter (·.name == "column")

/-- **One change of how attributes are written.** -/
inductive Respelling : List Attribute → List Attribute → Prop
  /-- The entries of one attribute become those of two. -/
  | split (before after : List Attribute) (is js : List Item) :
    Respelling (before ++ mapping (is ++ js) :: after) (before ++ mapping is :: mapping js :: after)
  /-- An attribute that is not about the mapping is put in anywhere. -/
  | foreign (before after : List Attribute) {a : Attribute} (h : a.name ≠ "orm") :
    Respelling (before ++ after) (before ++ a :: after)
  /-- A mark that is there is given once more. -/
  | repeated (before after : List Attribute) (is js : List Item) {i : Item} {kind : Kind} (hi : i.Marks kind)
    (hmem : i ∈ entries (before ++ mapping (is ++ js) :: after)) :
    Respelling (before ++ mapping (is ++ js) :: after) (before ++ mapping (is ++ i :: js) :: after)
  /-- Entries change their places, but those that name the column keep their order. -/
  | permuted {attributes attributes' : List Attribute} (hlists : ∀ a ∈ attributes, a.Lists)
    (hlists' : ∀ a ∈ attributes', a.Lists) (hperm : (entries attributes).Perm (entries attributes'))
    (hcolumns : columnEntries attributes = columnEntries attributes') : Respelling attributes attributes'

/-! ### What they keep -/

variable {attributes attributes' attributes'' : List Attribute}

/-- **Attributes that say the same**: the same entries, and the same ones name the column, in the same order. -/
structure Alike (attributes attributes' : List Attribute) : Prop where
  lists_iff : (∀ a ∈ attributes, a.Lists) ↔ ∀ a ∈ attributes', a.Lists
  mem_iff : ∀ i, i ∈ entries attributes ↔ i ∈ entries attributes'
  columns_eq : columnEntries attributes = columnEntries attributes'

theorem Alike.symm (h : Alike attributes attributes') : Alike attributes' attributes :=
  ⟨h.lists_iff.symm, fun i => (h.mem_iff i).symm, h.columns_eq.symm⟩

theorem Alike.trans (h : Alike attributes attributes') (h' : Alike attributes' attributes'') :
    Alike attributes attributes'' :=
  ⟨h.lists_iff.trans h'.lists_iff, fun i => (h.mem_iff i).trans (h'.mem_iff i), h.columns_eq.trans h'.columns_eq⟩

theorem Alike.of_entries_eq (hlists : (∀ a ∈ attributes, a.Lists) ↔ ∀ a ∈ attributes', a.Lists)
    (hentries : entries attributes = entries attributes') : Alike attributes attributes' := by
  refine ⟨hlists, fun i => by rw [hentries], ?_⟩
  rw [columnEntries, columnEntries, hentries]

theorem lists_mapping (items : List Item) : (mapping items).Lists := fun _ => ⟨items, rfl⟩

theorem lists_around (before after : List Attribute) (items : List Item) :
    (∀ a ∈ before ++ mapping items :: after, a.Lists) ↔ (∀ a ∈ before, a.Lists) ∧ ∀ a ∈ after, a.Lists := by
  rw [List.forall_mem_append, List.forall_mem_cons, and_iff_right (lists_mapping items)]

theorem entries_around (before after : List Attribute) (items : List Item) :
    entries (before ++ mapping items :: after) = entries before ++ (items ++ entries after) := by
  unfold entries
  rw [List.flatMap_append, List.flatMap_cons]
  rfl

theorem Attribute.entries_foreign {a : Attribute} (h : a.name ≠ "orm") : a.entries = [] := by
  unfold entries
  split
  · rw [if_neg h]
  · rfl

/-- **One change keeps what is said.** -/
theorem alike_of_respelling (h : Respelling attributes attributes') : Alike attributes attributes' := by
  cases h with
  | split before after is js =>
    refine .of_entries_eq ?_ ?_
    · rw [lists_around, lists_around, List.forall_mem_cons, and_iff_right (lists_mapping js)]
    · have hrest : entries (mapping js :: after) = js ++ entries after := entries_around [] after js
      rw [entries_around, entries_around, hrest, List.append_assoc]
  | foreign before after hname =>
    refine .of_entries_eq ?_ ?_
    · rw [List.forall_mem_append, List.forall_mem_append, List.forall_mem_cons]
      exact and_congr_right fun _ => (and_iff_right fun horm => absurd horm hname).symm
    · unfold entries
      rw [List.flatMap_append, List.flatMap_append, List.flatMap_cons, Attribute.entries_foreign hname, List.nil_append]
  | @repeated before after is js i kind hi hmem =>
    have hcolumn : (i.name == "column") = false := beq_eq_false_iff_ne.mpr hi.name_ne
    rw [entries_around] at hmem
    refine ⟨?_, fun i' => ?_, ?_⟩
    · rw [lists_around, lists_around]
    · -- the mark is among the entries before it is put in
      have hperm : (entries before ++ (is ++ i :: js ++ entries after)).Perm
          (i :: (entries before ++ (is ++ js ++ entries after))) := by
        have hmiddle := @List.perm_middle _ i (entries before ++ is) (js ++ entries after)
        simpa only [List.append_assoc, List.cons_append] using hmiddle
      rw [entries_around, entries_around, hperm.mem_iff, List.mem_cons]
      exact (or_iff_right_of_imp fun he => he ▸ hmem).symm
    · unfold columnEntries
      rw [entries_around, entries_around]
      simp only [List.filter_append, List.filter_cons, hcolumn, Bool.false_eq_true, if_false]
  | permuted hlists hlists' hperm hcolumns =>
    exact ⟨iff_of_true hlists hlists', fun i => hperm.mem_iff, hcolumns⟩

/-- **Any number of changes keeps what is said**, one after the other and back. -/
theorem alike_of_eqvGen (h : Relation.EqvGen Respelling attributes attributes') : Alike attributes attributes' := by
  induction h with
  | rel _ _ h => exact alike_of_respelling h
  | refl attributes => exact .of_entries_eq Iff.rfl rfl
  | symm _ _ _ ih => exact ih.symm
  | trans _ _ _ _ _ ih ih' => exact ih.trans ih'

/-! ### The column -/

namespace FieldDecl

variable {f f' : FieldDecl} {column : String} {kind : Kind}

/-- **Fields that are declared alike**: their attributes say the same, and nothing else differs. -/
structure Alike (f f' : FieldDecl) : Prop where
  name_eq : f.name = f'.name
  type_eq : f.type = f'.type
  attributes : Declaration.Alike f.attributes f'.attributes

namespace Alike

theorem symm (h : f.Alike f') : f'.Alike f := ⟨h.name_eq.symm, h.type_eq.symm, h.attributes.symm⟩

theorem marked_iff (h : f.Alike f') : f.Marked kind ↔ f'.Marked kind :=
  exists_congr fun i => and_congr_left' (h.attributes.mem_iff i)

theorem sound (h : f.Alike f') (hf : f.Sound) : f'.Sound where
  lists := h.attributes.lists_iff.mp hf.lists
  meaningful i hi := hf.meaningful i ((h.attributes.mem_iff i).mpr hi)
  marks kind kind' hkind hkind' := hf.marks kind kind' (h.marked_iff.mpr hkind) (h.marked_iff.mpr hkind')

theorem named (h : f.Alike f') (hf : f.Named column) : f'.Named column := by
  cases hf with
  | @last i column hlast hsets =>
    have hlast' : (columnEntries f'.attributes).getLast? = some i := h.attributes.columns_eq ▸ hlast
    exact .last hlast' hsets
  | own hnone => exact h.name_eq ▸ .own fun i hi => hnone i ((h.attributes.mem_iff i).mpr hi)

theorem serves (h : f.Alike f') (hf : f.Serves column kind) : f'.Serves column kind := by
  have hplain : (∀ kind, ¬ f.Marked kind) → ∀ kind, ¬ f'.Marked kind := fun hplain kind hkind =>
    hplain kind (h.marked_iff.mpr hkind)
  cases hf with
  | marked hkind => exact .marked (h.marked_iff.mp hkind)
  | document hnone htype => exact .document (hplain hnone) (h.type_eq ▸ htype)
  | identifier hnone htype hname => exact .identifier (hplain hnone) (h.type_eq ▸ htype) hname
  | timestamp hnone htype hname => exact .timestamp (hplain hnone) (h.type_eq ▸ htype) hname
  | scalar hnone htype hname => exact .scalar (hplain hnone) (h.type_eq ▸ htype) hname

theorem resolves {c : Column} (h : f.Alike f') (hf : f.Resolves c) : f'.Resolves c where
  named := h.named hf.named
  serves := h.serves hf.serves
  nullable := h.type_eq ▸ hf.nullable

/-- **Fields that are declared alike have the same column**, or none. -/
theorem member_eq_ok {m : Member} (h : f.Alike f') (hf : f.member = .ok m) : f'.member = .ok m := by
  obtain ⟨hsound, hname, hresolves⟩ := member_eq_ok_iff.mp hf
  exact member_eq_ok_iff.mpr ⟨h.sound hsound, hname.trans h.name_eq, h.resolves hresolves⟩

end Alike

/-- The field with other attributes. -/
def respelled (f : FieldDecl) (attributes : List Attribute) : FieldDecl := { f with attributes := attributes }

/-- **Fields with the same column**, as they resolve. -/
structure SameColumn (f f' : FieldDecl) : Prop where
  /-- One field has a column just if the other has. -/
  accepted_iff : (∃ m, f.member = .ok m) ↔ ∃ m, f'.member = .ok m
  /-- If they have one, it is the same one. -/
  name_eq : ∀ m m', f.member = .ok m → f'.member = .ok m' → m.column.name = m'.column.name
  kind_eq : ∀ m m', f.member = .ok m → f'.member = .ok m' → m.column.kind = m'.column.kind
  nullable_eq : ∀ m m', f.member = .ok m → f'.member = .ok m' → m.column.nullable = m'.column.nullable
  /-- The column is called by what was named last, or else as the field. -/
  named : ∀ m, f.member = .ok m → f.Named m.column.name ∧ f'.Named m.column.name

/-- **How the attributes of a field are written does not matter** for its column. -/
theorem respelling_keeps_column (f : FieldDecl) {attributes : List Attribute}
    (h : Relation.EqvGen Respelling f.attributes attributes) : f.SameColumn (f.respelled attributes) := by
  have halike : f.Alike (f.respelled attributes) := ⟨rfl, rfl, alike_of_eqvGen h⟩
  have hsame : ∀ m m', f.member = .ok m → (f.respelled attributes).member = .ok m' → m = m' := by
    intro m m' hm hm'
    rw [halike.member_eq_ok hm] at hm'
    exact Except.ok.inj hm'
  refine ⟨⟨?_, ?_⟩, ?_, ?_, ?_, ?_⟩
  · exact fun ⟨m, hm⟩ => ⟨m, halike.member_eq_ok hm⟩
  · exact fun ⟨m, hm⟩ => ⟨m, halike.symm.member_eq_ok hm⟩
  · exact fun m m' hm hm' => congrArg (fun m => m.column.name) (hsame m m' hm hm')
  · exact fun m m' hm hm' => congrArg (fun m => m.column.kind) (hsame m m' hm hm')
  · exact fun m m' hm hm' => congrArg (fun m => m.column.nullable) (hsame m m' hm hm')
  · intro m hm
    have hnamed : f.Named m.column.name := (member_eq_ok_iff.mp hm).2.2.named
    exact ⟨hnamed, halike.named hnamed⟩

end FieldDecl

/-- Attributes that say everything twice. -/
def wordyAttributes : List Attribute :=
  [mapping [⟨"id", none⟩, ⟨"column", some (.text "kind")⟩], ⟨"serde", .bare⟩,
    mapping [⟨"column", some (.text "sort")⟩, ⟨"id", none⟩]]

/-- One attribute that says the same as those of `wordyAttributes`. -/
def terseAttributes : List Attribute :=
  [mapping [⟨"column", some (.text "kind")⟩, ⟨"id", none⟩, ⟨"column", some (.text "sort")⟩]]

theorem eqvGen_wordyAttributes : Relation.EqvGen Respelling wordyAttributes terseAttributes := by
  have hforeign := Respelling.foreign [mapping [⟨"id", none⟩, ⟨"column", some (.text "kind")⟩]]
    [mapping [⟨"column", some (.text "sort")⟩, ⟨"id", none⟩]] (a := ⟨"serde", .bare⟩) (by decide)
  have hsplit := Respelling.split [] [] [⟨"id", none⟩, ⟨"column", some (.text "kind")⟩]
    [⟨"column", some (.text "sort")⟩, ⟨"id", none⟩]
  have hrepeated := Respelling.repeated [] []
    [⟨"id", none⟩, ⟨"column", some (.text "kind")⟩, ⟨"column", some (.text "sort")⟩] [] Item.Marks.id List.mem_cons_self
  have hpermuted : Respelling
      [mapping [⟨"id", none⟩, ⟨"column", some (.text "kind")⟩, ⟨"column", some (.text "sort")⟩]] terseAttributes :=
    .permuted (List.forall_mem_singleton.mpr (lists_mapping _)) (List.forall_mem_singleton.mpr (lists_mapping _))
      (.swap _ _ _) rfl
  exact .trans _ _ _ (.symm _ _ (.rel _ _ hforeign)) (.trans _ _ _ (.symm _ _ (.rel _ _ hsplit))
    (.trans _ _ _ (.symm _ _ (.rel _ _ hrepeated)) (.rel _ _ hpermuted)))

theorem wordyField_keeps_column : Relation.EqvGen Respelling wordyAttributes terseAttributes ∧
    FieldDecl.SameColumn ⟨"r#type", .name "String", wordyAttributes⟩ ⟨"r#type", .name "String", terseAttributes⟩ :=
  ⟨eqvGen_wordyAttributes,
    FieldDecl.respelling_keeps_column ⟨"r#type", .name "String", wordyAttributes⟩ eqvGen_wordyAttributes⟩

/-- The column that both give. -/
example : FieldDecl.member ⟨"r#type", .name "String", wordyAttributes⟩ =
    .ok ⟨"r#type", ⟨"sort", .identifier, false⟩⟩ := by decide

end TableGateway.Declaration
