import TableGateway.Declaration.Layout
import TableGateway.Proofs.Traversal

/-! # Fields and their columns

The attributes of a field that are about the mapping list entries. Each entry is a marker, which says what the
field is for, or a name for its column; what no entry says is taken from the type and the name of the field.

* `Declaration.readItems_eq_ok_iff` : entries are read one after the other
* `FieldDecl.Sound` : a field whose entries all mean something and do not contradict each other
* `FieldDecl.Resolves` : the column that a field stands for
* `FieldDecl.member_eq_ok_iff` : a sound field has this column, and no other field has one -/

namespace TableGateway.Declaration

variable {attributes : List Attribute}

/-! ### Entries -/

/-- The entries of an attribute, if it is about the mapping. -/
def Attribute.entries (a : Attribute) : List Item :=
  match a.body with
  | .items items => if a.name = "orm" then items else []
  | _ => []

/-- **The entries of attributes**, in order. -/
def entries (attributes : List Attribute) : List Item := attributes.flatMap Attribute.entries

/-- An attribute that lists entries if it is about the mapping. -/
def Attribute.Lists (a : Attribute) : Prop := a.name = "orm" → ∃ items, a.body = .items items

theorem Attribute.mappingItems_eq_ok_iff {a : Attribute} {items : List Item} :
    a.mappingItems = .ok items ↔ a.Lists ∧ items = a.entries := by
  obtain ⟨name, body⟩ := a
  by_cases hname : name = "orm"
  · subst hname
    cases body <;> simp [mappingItems, Lists, entries, eq_comm]
  · cases body <;> simp [mappingItems, Lists, entries, hname, eq_comm]

theorem readItems_cons_eq {α : Type} (read : Item → Except Fault α) (a : Attribute)
    (attributes : List Attribute) : readItems read (a :: attributes) =
      (a.mappingItems.bind (·.mapM read)).bind fun xs => (readItems read attributes).map (xs ++ ·) := by
  simp only [readItems, mapM_cons_eq, bind]
  rcases a.mappingItems.bind (·.mapM read) with fault | xs
  · rfl
  · rcases hgroups : attributes.mapM fun a => a.mappingItems.bind (·.mapM read) with fault | groups
    all_goals simp only [hgroups]; rfl

/-- **Entries are read one after the other**, if all attributes list them. -/
theorem readItems_eq_mapM {α : Type} (read : Item → Except Fault α) : ∀ {attributes : List Attribute},
    (∀ a ∈ attributes, a.Lists) → readItems read attributes = (entries attributes).mapM read
  | [], _ => rfl
  | a :: attributes, h => by
    obtain ⟨ha, hrest⟩ := List.forall_mem_cons.mp h
    rw [readItems_cons_eq, Attribute.mappingItems_eq_ok_iff.mpr ⟨ha, rfl⟩, readItems_eq_mapM read hrest,
      entries, entries, List.flatMap_cons, List.mapM_append]
    rcases hentries : a.entries.mapM read with fault | xs
    · simp only [Except.bind, hentries, bind]
    · simp only [Except.bind, hentries, bind]
      rcases (attributes.flatMap Attribute.entries).mapM read with fault | ys <;> rfl

theorem lists_of_readItems {α : Type} {read : Item → Except Fault α} : ∀ {attributes : List Attribute}
    {xs : List α}, readItems read attributes = .ok xs → ∀ a ∈ attributes, a.Lists
  | [], _, _ => nofun
  | a :: attributes, xs, h => by
    rw [readItems_cons_eq, bind_eq_ok_iff] at h
    obtain ⟨ys, hys, hrest⟩ := h
    obtain ⟨items, hitems, -⟩ := bind_eq_ok_iff.mp hys
    obtain ⟨zs, hzs, -⟩ := (map_eq_ok_iff _ _ _).mp hrest
    exact List.forall_mem_cons.mpr
      ⟨(Attribute.mappingItems_eq_ok_iff.mp hitems).1, lists_of_readItems hzs⟩

theorem readItems_eq_ok_iff {α : Type} {read : Item → Except Fault α} {xs : List α} :
    readItems read attributes = .ok xs ↔
      (∀ a ∈ attributes, a.Lists) ∧ List.Forall₂ (fun i x => read i = .ok x) (entries attributes) xs := by
  constructor
  · intro h
    have hlists := lists_of_readItems h
    rw [readItems_eq_mapM read hlists] at h
    exact ⟨hlists, mapM_eq_ok_iff.mp h⟩
  · rintro ⟨hlists, hread⟩
    rw [readItems_eq_mapM read hlists, mapM_eq_ok_iff.mpr hread]

/-! ### Types -/

namespace TypeExpr

/-- **A type that is an option of another one**: a path that ends in `Option` with that one and no other
argument. -/
def OptionOf (t inner : TypeExpr) : Prop :=
  ∃ rooted names, t = path rooted names [.type inner] ∧ names.getLast? = some "Option"

/-- **A type that is a document**, by the end of its path. -/
def Document (t : TypeExpr) : Prop :=
  ∃ rooted names arguments, t = path rooted names arguments ∧
    (["Json"] <:+ names ∨ ["JsonValue"] <:+ names ∨ ["serde_json", "Value"] <:+ names)

/-- A type that is a document, or an option of one. -/
def HoldsDocument (t : TypeExpr) : Prop :=
  (∃ inner, t.OptionOf inner ∧ inner.Document) ∨ (∀ inner, ¬ t.OptionOf inner) ∧ t.Document

variable {t : TypeExpr}

theorem optionOf?_eq_none_iff : t.optionOf? = none ↔ ∀ inner, ¬ t.OptionOf inner := by
  rw [Option.eq_none_iff_forall_ne_some]
  exact forall_congr' fun inner => not_congr optionOf?_eq_some_iff

theorem isSome_optionOf?_iff : t.optionOf?.isSome = true ↔ ∃ inner, t.OptionOf inner := by
  rw [Option.isSome_iff_exists]
  exact exists_congr fun inner => optionOf?_eq_some_iff

theorem isDocument_iff : t.isDocument = true ↔ t.Document := by
  cases t with
  | path rooted names arguments =>
    have hpath : (path rooted names arguments).Document ↔
        ["Json"] <:+ names ∨ ["JsonValue"] <:+ names ∨ ["serde_json", "Value"] <:+ names :=
      ⟨fun ⟨_, _, _, h, hends⟩ => by cases h; exact hends, fun hends => ⟨_, _, _, rfl, hends⟩⟩
    rw [hpath]
    simp only [← List.reverse_prefix, isDocument]
    rcases names.reverse with _ | ⟨last, _ | ⟨second, before⟩⟩ <;>
      simp [List.cons_prefix_cons, @eq_comm String "Json", @eq_comm String "JsonValue",
        @eq_comm String "Value", @eq_comm String "serde_json", or_assoc]
  | reference | paren | slice | tuple => exact iff_of_false nofun (by rintro ⟨_, _, _, h, -⟩; cases h)

theorem holdsDocument_iff : (t.optionOf?.getD t).isDocument = true ↔ t.HoldsDocument := by
  rw [isDocument_iff]
  rcases ht : t.optionOf? with _ | inner
  · have hnone := optionOf?_eq_none_iff.mp ht
    exact ⟨fun h => .inr ⟨hnone, h⟩, fun h => h.elim (fun ⟨u, hu, _⟩ => absurd hu (hnone u)) And.right⟩
  · have hinner : t.OptionOf inner := optionOf?_eq_some_iff.mp ht
    refine ⟨fun h => .inl ⟨inner, hinner, h⟩, fun h => ?_⟩
    rcases h with ⟨u, hu, hdocument⟩ | ⟨hnone, -⟩
    · rw [optionOf?_eq_some_iff.mpr hu] at ht
      exact Option.some.inj ht ▸ hdocument
    · exact absurd hinner (hnone inner)

end TypeExpr

/-! ### Fields -/

/-- An entry that marks what a field is for. -/
inductive Item.Marks : Item → Kind → Prop
  | id : Marks ⟨"id", none⟩ .identifier
  | timestamp : Marks ⟨"timestamp", none⟩ .timestamp
  | structured : Marks ⟨"structured", none⟩ .structured

/-- An entry that gives a text to a word. -/
def Item.Sets (i : Item) (word text : String) : Prop := i = ⟨word, some (.text text)⟩

namespace FieldDecl

/-- The entries of a field. -/
def entries (f : FieldDecl) : List Item := Declaration.entries f.attributes

/-- **A field that is marked** as something. -/
def Marked (f : FieldDecl) (kind : Kind) : Prop := ∃ i ∈ f.entries, i.Marks kind

/-- **The name of a field's column**: the one that its entries name last, or else its own. -/
inductive Named (f : FieldDecl) : String → Prop
  | last {i : Item} {column : String} (h : (f.entries.filter (·.name == "column")).getLast? = some i)
    (hsets : i.Sets "column" column) : Named f column
  | own (h : ∀ i ∈ f.entries, i.name ≠ "column") : Named f (plainName f.name)

/-- **What a field is for**: what it is marked as, or else what its type and its column tell. -/
inductive Serves (f : FieldDecl) (column : String) : Kind → Prop
  | marked {kind : Kind} (h : f.Marked kind) : Serves f column kind
  | document (hplain : ∀ kind, ¬ f.Marked kind) (h : f.type.HoldsDocument) : Serves f column .structured
  | identifier (hplain : ∀ kind, ¬ f.Marked kind) (htype : ¬ f.type.HoldsDocument) (h : column = "id") :
    Serves f column .identifier
  | timestamp (hplain : ∀ kind, ¬ f.Marked kind) (htype : ¬ f.type.HoldsDocument)
    (h : column = "created_at" ∨ column = "updated_at") : Serves f column .timestamp
  | scalar (hplain : ∀ kind, ¬ f.Marked kind) (htype : ¬ f.type.HoldsDocument)
    (h : column ∉ ["id", "created_at", "updated_at"]) : Serves f column .scalar

/-- **The column that a field stands for.** -/
structure Resolves (f : FieldDecl) (c : Column) : Prop where
  named : f.Named c.name
  serves : f.Serves c.name c.kind
  nullable : c.nullable = true ↔ ∃ inner, f.type.OptionOf inner

/-- **A field that is soundly declared.** -/
structure Sound (f : FieldDecl) : Prop where
  /-- Its attributes about the mapping list entries. -/
  lists : ∀ a ∈ f.attributes, a.Lists
  /-- Each entry marks the field or names the column. -/
  meaningful : ∀ i ∈ f.entries, (∃ kind, i.Marks kind) ∨ ∃ column, i.Sets "column" column
  /-- No two marks are different. -/
  marks : ∀ kind kind', f.Marked kind → f.Marked kind' → kind = kind'

end FieldDecl

/-! What an entry of a field says is read off it. -/

/-- What an entry says, apart from how it is read. -/
def Item.Says (i : Item) : FieldItem → Prop
  | .kind kind => i.Marks kind
  | .column column => i.Sets "column" column

theorem markerKind?_eq_some_iff {word : String} {kind : Kind} :
    markerKind? word = some kind ↔ Item.Marks ⟨word, none⟩ kind := by
  constructor
  · unfold markerKind?
    split_ifs with hid htimestamp hstructured <;> intro h <;> cases h
    · exact hid ▸ .id
    · exact htimestamp ▸ .timestamp
    · exact hstructured ▸ .structured
  · intro h
    cases h <;> rfl

theorem Item.Marks.value_eq {i : Item} {kind : Kind} (h : i.Marks kind) : i.value = none := by
  cases h <;> rfl

theorem Item.Marks.name_ne {i : Item} {kind : Kind} (h : i.Marks kind) : i.name ≠ "column" := by
  cases h <;> decide

theorem Item.Marks.unique {i : Item} {kind kind' : Kind} (h : i.Marks kind) (h' : i.Marks kind') :
    kind = kind' := by
  have hword : ∀ {kind}, i.Marks kind → markerKind? i.name = some kind := fun h => by cases h <;> rfl
  exact Option.some.inj ((hword h).symm.trans (hword h'))

theorem readFieldItem_eq_ok_iff {i : Item} {x : FieldItem} : readFieldItem i = .ok x ↔ i.Says x := by
  obtain ⟨name, value⟩ := i
  unfold readFieldItem
  rcases hmarker : markerKind? name with _ | kind
  · have hplain : ∀ kind, ¬ Item.Marks ⟨name, value⟩ kind := by
      intro kind h
      obtain rfl := h.value_eq
      rw [markerKind?_eq_some_iff.mpr h] at hmarker
      cases hmarker
    by_cases hname : name = "column"
    · subst hname
      rcases value with _ | ⟨s | _⟩ <;> cases x <;>
        simp [Item.text, Except.map, Item.Says, Item.Sets, hplain]
    · cases x <;> simp [hname, Item.Says, Item.Sets, hplain]
  · have hmarks := markerKind?_eq_some_iff.mp hmarker
    have hname : name ≠ "column" := hmarks.name_ne
    cases value with
    | none =>
      cases x with
      | kind kind' => exact ⟨fun h => by cases h; exact hmarks, fun h => by rw [hmarks.unique h]; rfl⟩
      | column column => simp [Item.Says, Item.Sets]
    | some literal =>
      cases x with
      | kind kind' => exact iff_of_false nofun fun h => nomatch Item.Marks.value_eq h
      | column column => simp [Item.Says, Item.Sets, hname]

theorem exists_says_iff {is : List Item} : (∃ items, List.Forall₂ Item.Says is items) ↔
    ∀ i ∈ is, (∃ kind, i.Marks kind) ∨ ∃ column, i.Sets "column" column := by
  have hsays : ∀ i : Item, (∃ x, i.Says x) ↔ (∃ kind, i.Marks kind) ∨ ∃ column, i.Sets "column" column := by
    intro i
    constructor
    · rintro ⟨kind | column, h⟩
      · exact .inl ⟨kind, h⟩
      · exact .inr ⟨column, h⟩
    · rintro (⟨kind, h⟩ | ⟨column, h⟩)
      · exact ⟨.kind kind, h⟩
      · exact ⟨.column column, h⟩
  simp only [← hsays, ← readFieldItem_eq_ok_iff]
  rw [← exists_mapM_eq_ok_iff]
  simp only [mapM_eq_ok_iff, readFieldItem_eq_ok_iff]

theorem exists_marks_iff {is : List Item} {items : List FieldItem} (h : List.Forall₂ Item.Says is items)
    {kind : Kind} : (∃ i ∈ is, i.Marks kind) ↔ kind ∈ items.filterMap FieldItem.kind? := by
  induction h with
  | nil => simp
  | @cons i x _ _ hsays _ ih =>
    simp only [List.mem_cons, exists_eq_or_imp, ih]
    cases x with
    | kind kind' =>
      have hmarks : i.Marks kind ↔ kind = kind' := ⟨fun h => h.unique hsays, fun h => h ▸ hsays⟩
      simp [FieldItem.kind?, hmarks]
    | column column =>
      have hmarks : ¬ i.Marks kind := fun h => h.name_ne (by rw [show i = _ from hsays])
      simp [FieldItem.kind?, hmarks]

theorem filter_column_eq {is : List Item} {items : List FieldItem} (h : List.Forall₂ Item.Says is items) :
    is.filter (·.name == "column") =
      (items.filterMap FieldItem.column?).map fun s => ⟨"column", some (.text s)⟩ := by
  induction h with
  | nil => rfl
  | @cons i x _ _ hsays _ ih =>
    cases x with
    | kind kind =>
      have hname : i.name ≠ "column" := hsays.name_ne
      rw [List.filter_cons_of_neg (by simpa using hname), List.filterMap_cons_none rfl, ih]
    | column column =>
      obtain rfl : i = _ := hsays
      simp [FieldItem.column?, ih]

namespace FieldDecl

variable {f : FieldDecl} {items : List FieldItem} {column : String}

theorem fieldItems_eq_ok_iff : fieldItems f.attributes = .ok items ↔
    (∀ a ∈ f.attributes, a.Lists) ∧ List.Forall₂ Item.Says f.entries items := by
  rw [fieldItems, readItems_eq_ok_iff]
  simp only [readFieldItem_eq_ok_iff]
  rfl

theorem named_iff (h : List.Forall₂ Item.Says f.entries items) :
    f.Named column ↔ (namedColumn? items).getD (plainName f.name) = column := by
  have hfilter := filter_column_eq h
  have hlast : (f.entries.filter (·.name == "column")).getLast? =
      (namedColumn? items).map fun s => ⟨"column", some (.text s)⟩ := by
    rw [hfilter, List.getLast?_map, namedColumn?]
  rcases hnamed : namedColumn? items with _ | named
  · have hnone : ∀ i ∈ f.entries, i.name ≠ "column" := by
      rw [hnamed, Option.map_none, List.getLast?_eq_none_iff, List.filter_eq_nil_iff] at hlast
      exact fun i hi => by simpa using hlast i hi
    refine ⟨fun h => ?_, fun h => h ▸ .own hnone⟩
    cases h with
    | last hi => rw [hlast, hnamed] at hi; cases hi
    | own => rfl
  · rw [hnamed] at hlast
    refine ⟨fun h => ?_, fun h => h ▸ .last hlast rfl⟩
    cases h with
    | last hi hsets =>
      obtain rfl := Option.some.inj (hlast.symm.trans hi)
      cases hsets
      rfl
    | own hnone =>
      have hmem := List.mem_of_getLast? hlast
      exact absurd rfl (hnone _ (List.mem_of_mem_filter hmem))

theorem usualKind_iff (hplain : ∀ kind, ¬ f.Marked kind) {kind : Kind} :
    f.Serves column kind ↔ usualKind (f.type.optionOf?.getD f.type) column = kind := by
  unfold usualKind
  constructor
  · intro h
    cases h with
    | marked h => exact absurd h (hplain _)
    | document _ h => rw [if_pos (TypeExpr.holdsDocument_iff.mpr h)]
    | identifier _ htype h =>
      rw [if_neg (TypeExpr.holdsDocument_iff.not.mpr htype), if_pos h]
    | timestamp _ htype h =>
      have hid : column ≠ "id" := by rcases h with rfl | rfl <;> decide
      rw [if_neg (TypeExpr.holdsDocument_iff.not.mpr htype), if_neg hid, if_pos h]
    | scalar _ htype h =>
      simp only [List.mem_cons, List.not_mem_nil, or_false, not_or] at h
      rw [if_neg (TypeExpr.holdsDocument_iff.not.mpr htype), if_neg h.1, if_neg (not_or.mpr h.2)]
  · rintro rfl
    split_ifs with hdocument hid htimestamp
    · exact .document hplain (TypeExpr.holdsDocument_iff.mp hdocument)
    · exact .identifier hplain (TypeExpr.holdsDocument_iff.not.mp hdocument) hid
    · exact .timestamp hplain (TypeExpr.holdsDocument_iff.not.mp hdocument) htimestamp
    · exact .scalar hplain (TypeExpr.holdsDocument_iff.not.mp hdocument) (by
        simpa only [List.mem_cons, List.not_mem_nil, or_false, not_or] using ⟨hid, not_or.mp htimestamp⟩)

theorem serves_iff (h : List.Forall₂ Item.Says f.entries items) {marked : Option Kind}
    (hmarked : markedKind items = .ok marked) {kind : Kind} : f.Serves column kind ↔
      marked.getD (usualKind (f.type.optionOf?.getD f.type) column) = kind := by
  cases marked with
  | none =>
    refine usualKind_iff fun kind hkind => ?_
    rw [Marked, exists_marks_iff h, List.mem_filterMap] at hkind
    obtain ⟨item, hitem, hkind⟩ := hkind
    rw [markedKind_eq_none_iff.mp hmarked item hitem] at hkind
    cases hkind
  | some marked =>
    obtain ⟨hne, hall⟩ := markedKind_eq_some_iff.mp hmarked
    obtain ⟨kind', hkind'⟩ := List.exists_mem_of_ne_nil _ hne
    have hmark : f.Marked marked := (exists_marks_iff h).mpr (hall kind' hkind' ▸ hkind')
    refine ⟨fun hserves => ?_, fun hkind => hkind ▸ .marked hmark⟩
    cases hserves with
    | marked hkind => exact (hall _ ((exists_marks_iff h).mp hkind)).symm
    | document hplain | identifier hplain | timestamp hplain | scalar hplain => exact absurd hmark (hplain _)

theorem exists_markedKind_iff (h : List.Forall₂ Item.Says f.entries items) :
    (∃ marked, markedKind items = .ok marked) ↔
      ∀ kind kind', f.Marked kind → f.Marked kind' → kind = kind' := by
  simp only [Marked, exists_marks_iff h]
  constructor
  · rintro ⟨_ | marked, hmarked⟩ kind kind' hkind hkind'
    · obtain ⟨item, hitem, hkind⟩ := List.mem_filterMap.mp hkind
      rw [markedKind_eq_none_iff.mp hmarked item hitem] at hkind
      cases hkind
    · have hall := (markedKind_eq_some_iff.mp hmarked).2
      rw [hall kind hkind, hall kind' hkind']
  · intro hagree
    rcases hkinds : items.filterMap FieldItem.kind? with _ | ⟨kind, kinds⟩
    · exact ⟨none, markedKind_eq_none_iff.mpr (List.filterMap_eq_nil_iff.mp hkinds)⟩
    · have hkind : kind ∈ items.filterMap FieldItem.kind? := hkinds ▸ List.mem_cons_self
      exact ⟨some kind, markedKind_eq_some_iff.mpr ⟨hkinds ▸ List.cons_ne_nil _ _,
        fun l hl => hagree l kind hl hkind⟩⟩

theorem member_eq (f : FieldDecl) : f.member = (fieldItems f.attributes).bind fun items =>
    (markedKind items).map fun marked =>
      let column := (namedColumn? items).getD (plainName f.name)
      ⟨f.name, ⟨column, marked.getD (usualKind (f.type.optionOf?.getD f.type) column), f.type.optionOf?.isSome⟩⟩ := by
  unfold member
  rcases fieldItems f.attributes with fault | items
  · rfl
  · rcases hmarked : markedKind items with fault | marked
    all_goals simp only [bind, Except.bind, hmarked]; rfl

/-- **A sound field has the column that it stands for**, and no other field has one. -/
theorem member_eq_ok_iff {m : Member} :
    f.member = .ok m ↔ f.Sound ∧ m.field = f.name ∧ f.Resolves m.column := by
  simp only [member_eq, bind_eq_ok_iff, map_eq_ok_iff, fieldItems_eq_ok_iff]
  constructor
  · rintro ⟨items, ⟨hlists, hsays⟩, marked, hmarked, rfl⟩
    have hmeaningful := exists_says_iff.mp ⟨items, hsays⟩
    have hmarks := (exists_markedKind_iff hsays).mp ⟨marked, hmarked⟩
    exact ⟨⟨hlists, hmeaningful, hmarks⟩, rfl, (named_iff hsays).mpr rfl, (serves_iff hsays hmarked).mpr rfl,
      TypeExpr.isSome_optionOf?_iff⟩
  · rintro ⟨hsound, hfield, hresolves⟩
    obtain ⟨items, hsays⟩ := exists_says_iff.mpr hsound.meaningful
    obtain ⟨marked, hmarked⟩ := (exists_markedKind_iff hsays).mpr hsound.marks
    refine ⟨items, ⟨hsound.lists, hsays⟩, marked, hmarked, ?_⟩
    have hname := (named_iff hsays).mp hresolves.named
    have hkind := (serves_iff hsays hmarked).mp hresolves.serves
    have hnullable : m.column.nullable = f.type.optionOf?.isSome :=
      Bool.eq_iff_iff.mpr (hresolves.nullable.trans TypeExpr.isSome_optionOf?_iff.symm)
    obtain ⟨field, name, kind, nullable⟩ := m
    simp only at hfield hname hkind hnullable
    rw [hname, hkind, hfield, hnullable]

theorem exists_member_iff : (∃ m, f.member = .ok m) ↔ f.Sound := by
  constructor
  · rintro ⟨m, h⟩
    exact (member_eq_ok_iff.mp h).1
  · intro hsound
    obtain ⟨items, hsays⟩ := exists_says_iff.mpr hsound.meaningful
    obtain ⟨marked, hmarked⟩ := (exists_markedKind_iff hsays).mpr hsound.marks
    rw [member_eq, fieldItems_eq_ok_iff.mpr ⟨hsound.lists, hsays⟩]
    exact ⟨_, (map_eq_ok_iff _ _ _).mpr ⟨marked, hmarked, rfl⟩⟩

theorem Resolves.unique (hsound : f.Sound) {c c' : Column} (h : f.Resolves c) (h' : f.Resolves c') : c = c' := by
  have hmember : ∀ {c}, f.Resolves c → f.member = .ok ⟨f.name, c⟩ := fun h =>
    member_eq_ok_iff.mpr ⟨hsound, rfl, h⟩
  exact congrArg Member.column (Except.ok.inj ((hmember h).symm.trans (hmember h')))

end FieldDecl

end TableGateway.Declaration
