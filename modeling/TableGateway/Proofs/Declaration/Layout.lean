import TableGateway.Proofs.Declaration.Field
import TableGateway.Proofs.Row.Column

/-! # Declarations and their layouts

A declaration has a layout if nothing is wrong with it: with its own attributes, with its shape, with any of its
fields, and with the columns of the fields taken together. The layout then lists the columns of the fields in
four places, for rows to be read, for columns to be looked up, for their kinds, and as constants, and all of
them agree.

* `Declaration.Acceptable` : a declaration with which nothing is wrong
* `Declaration.Coherent` : a layout that follows the fields of a declaration everywhere
* `Declaration.layout_faithful` : the declarations that are acceptable have a layout, and it is coherent -/

namespace TableGateway

namespace Declaration

variable {d : Declaration} {l : Layout}

/-! ### Acceptable declarations -/

/-- **A declaration with which nothing is wrong.** -/
structure Acceptable (d : Declaration) : Prop where
  /-- It is a structure with named fields. -/
  shape : d.shape = .named
  /-- Its own attributes about the mapping list entries. -/
  lists : ∀ a ∈ d.attributes, a.Lists
  /-- Each entry names the table. -/
  tables : ∀ i ∈ entries d.attributes, ∃ table, i.Sets "table" table
  /-- The last entry names it by a text that is not empty. -/
  table : ∃ i table, (entries d.attributes).getLast? = some i ∧ i.Sets "table" table ∧ table ≠ ""
  /-- All fields are soundly declared. -/
  fields : ∀ f ∈ d.fields, f.Sound
  /-- No two fields stand for identifiers. -/
  identifiers : d.fields.Pairwise fun f f' => ∀ c c', f.Resolves c → f'.Resolves c' →
    c.kind = .identifier → c'.kind ≠ .identifier
  /-- No two fields stand for columns of one name. -/
  columns : d.fields.Pairwise fun f f' => ∀ c c', f.Resolves c → f'.Resolves c' → c.name ≠ c'.name

/-! The table is the one that is named last. -/

theorem readTable_eq_ok_iff {i : Item} {table : String} : readTable i = .ok table ↔ i.Sets "table" table := by
  obtain ⟨name, value⟩ := i
  unfold readTable
  by_cases hname : name = "table"
  · subst hname
    rcases value with _ | ⟨s | _⟩ <;> simp [Item.text, Item.Sets]
  · simp [hname, Item.Sets]

theorem entries_eq_map {is : List Item} {tables : List String} :
    List.Forall₂ (fun i table => readTable i = .ok table) is tables ↔
      is = tables.map fun table => ⟨"table", some (.text table)⟩ := by
  rw [← List.forall₂_eq_eq_eq, List.forall₂_map_right_iff]
  simp only [readTable_eq_ok_iff, Item.Sets]

theorem tableName_eq_ok_iff {attributes : List Attribute} {table : String} :
    tableName attributes = .ok table ↔ (∀ a ∈ attributes, a.Lists) ∧
      (∀ i ∈ entries attributes, ∃ table, i.Sets "table" table) ∧
      ∃ i, (entries attributes).getLast? = some i ∧ i.Sets "table" table ∧ table ≠ "" := by
  have hnames : tableName attributes = .ok table ↔
      ∃ names, tableNames attributes = .ok names ∧ names.getLast? = some table ∧ table ≠ "" := by
    refine bind_eq_ok_iff.trans (exists_congr fun names => and_congr_right fun _ => ?_)
    rcases names.getLast? with _ | name
    · exact iff_of_false nofun fun h => nomatch h.1
    · by_cases hname : name = ""
      · refine iff_of_false (by rw [hname]; nofun) ?_
        rintro ⟨h, hne⟩
        exact hne (Option.some.inj h ▸ hname)
      · have hempty : name.isEmpty = false := by simpa using hname
        simp only [hempty]
        exact ⟨fun h => by cases h; exact ⟨rfl, hname⟩, fun h => congrArg Except.ok (Option.some.inj h.1)⟩
  rw [hnames]
  constructor
  · rintro ⟨names, hread, hlast, hne⟩
    obtain ⟨hlists, hread⟩ := readItems_eq_ok_iff.mp hread
    have hentries := entries_eq_map.mp hread
    refine ⟨hlists, fun i hi => ?_, ⟨"table", some (.text table)⟩, ?_, rfl, hne⟩
    · obtain ⟨name, -, rfl⟩ := List.mem_map.mp (hentries ▸ hi)
      exact ⟨name, rfl⟩
    · rw [hentries, List.getLast?_map, hlast, Option.map_some]
  · rintro ⟨hlists, htables, i, hlast, hsets, hne⟩
    obtain ⟨names, hread⟩ := exists_mapM_eq_ok_iff.mpr fun i hi =>
      (htables i hi).imp fun name h => readTable_eq_ok_iff.mpr h
    rw [entries_eq_map.mp (mapM_eq_ok_iff.mp hread), List.getLast?_map, Option.map_eq_some_iff] at hlast
    obtain ⟨name, hname, rfl⟩ := hlast
    cases hsets
    exact ⟨names, (readItems_eq_mapM _ hlists).trans hread, hname, hne⟩

/-! Members are taken together without conflict. -/

theorem passes_eq_ok_iff {offence : Option Fault} {u : Unit} : passes offence = .ok u ↔ offence = none := by
  cases offence <;> simp [passes]

theorem offence?_eq_none_iff {shape : Shape} : shape.offence? = none ↔ shape = .named := by
  cases shape <;> simp [Shape.offence?]

theorem length_filter_le_one_iff {α : Type} {p : α → Bool} {xs : List α} :
    ¬ 1 < (xs.filter p).length ↔ xs.Pairwise fun x y => p x = true → p y = true → False := by
  rw [← List.pairwise_filter]
  rcases xs.filter p with _ | ⟨x, _ | ⟨y, rest⟩⟩
  · simp
  · simp
  · exact iff_of_false (by simp) fun h => List.rel_of_pairwise_cons h List.mem_cons_self

theorem conflict?_eq_none_iff {members : List Member} : conflict? members = none ↔
    members.Pairwise (fun m m' => m.column.kind = .identifier → m'.column.kind ≠ .identifier) ∧
      members.Pairwise fun m m' => m.column.name ≠ m'.column.name := by
  have hidentifiers := @length_filter_le_one_iff Member (·.column.kind == .identifier) members
  simp only [beq_iff_eq] at hidentifiers
  unfold conflict?
  split
  · next h => exact iff_of_false nofun fun hpairs => hidentifiers.mpr hpairs.1 h
  · next h =>
    rw [Option.map_eq_none_iff, firstRepeat?_eq_none_iff, List.Nodup, List.pairwise_map]
    exact ⟨fun hnames => ⟨hidentifiers.mp h, hnames.1⟩, fun hpairs => ⟨hpairs.2, nofun⟩⟩

theorem layout_eq_ok_iff : d.layout = .ok l ↔ tableName d.attributes = .ok l.table ∧ d.shape = .named ∧
    d.fields.mapM FieldDecl.member = .ok l.members ∧ conflict? l.members = none ∧ l.name = d.name := by
  have hlayout : d.layout = (tableName d.attributes).bind fun table => (passes d.shape.offence?).bind fun _ =>
      (d.fields.mapM FieldDecl.member).bind fun members => (passes (conflict? members)).bind fun _ =>
        .ok ⟨d.name, table, members⟩ := rfl
  simp only [hlayout, bind_eq_ok_iff, passes_eq_ok_iff, offence?_eq_none_iff]
  constructor
  · rintro ⟨table, htable, -, hshape, members, hmembers, -, hconflict, h⟩
    cases h
    exact ⟨htable, hshape, hmembers, hconflict, rfl⟩
  · rintro ⟨htable, hshape, hmembers, hconflict, hname⟩
    exact ⟨l.table, htable, (), hshape, l.members, hmembers, (), hconflict, by rw [← hname]⟩

/-! ### Coherent layouts -/

/-- **A layout that follows the fields of a declaration everywhere.** -/
structure Coherent (d : Declaration) (l : Layout) : Prop where
  /-- The table is the one that is named last. -/
  table : ∃ i, (entries d.attributes).getLast? = some i ∧ i.Sets "table" l.table
  /-- There is one column for each field, the one that it stands for, in the order of the declaration. -/
  columns : List.Forall₂ FieldDecl.Resolves d.fields l.columns
  /-- Each field is read from its own column. -/
  reads : l.reads = (d.fields.zip l.columns).map fun x => (x.1.name, x.2.name)
  /-- Fields are read one after the other, whatever the types and the row are. -/
  read : ∀ typeOf row, (l.record typeOf).read row = (d.fields.zip l.columns).mapM fun x =>
    (row.read x.2.name (typeOf x.1.name)).map (x.1.name, ·)
  /-- The constant for each field is the name of its own column. -/
  constants : l.constants = (d.fields.zip l.columns).map fun x => (Layout.constantName x.1.name, x.2.name)
  /-- Every column is found by its name. -/
  lookup : ∀ typeOf, ∀ c ∈ l.columns, (l.record typeOf).column? c.name = some c
  /-- Rows are identified by the column of the identifier, if there is one. -/
  idColumn : ∀ typeOf, ∀ c ∈ l.columns, c.kind = .identifier → (l.record typeOf).idColumn = c.name

/-- What holds of any two items is what holds of any two that they are related to, each to one only. -/
theorem pairwise_iff_of_forall₂ {α β : Type} {r : α → β → Prop} {p : β → β → Prop} {xs : List α}
    {ys : List β}
    (h : List.Forall₂ r xs ys) (hunique : ∀ x ∈ xs, ∀ y y', r x y → r x y' → y = y') :
    xs.Pairwise (fun x x' => ∀ y y', r x y → r x' y' → p y y') ↔ ys.Pairwise p := by
  obtain ⟨hlength, hr⟩ := List.forall₂_iff_get.mp h
  simp only [List.get_eq_getElem] at hr
  rw [List.pairwise_iff_getElem, List.pairwise_iff_getElem]
  constructor
  · intro hpairs i j hi hj hij
    have hi' : i < xs.length := hlength ▸ hi
    have hj' : j < xs.length := hlength ▸ hj
    exact hpairs i j hi' hj' hij _ _ (hr i hi' hi) (hr j hj' hj)
  · intro hpairs i j hi hj hij y y' hy hy'
    rw [hunique _ (List.getElem_mem hi) _ _ hy (hr i hi (hlength ▸ hi)),
      hunique _ (List.getElem_mem hj) _ _ hy' (hr j hj (hlength ▸ hj))]
    exact hpairs i j _ _ hij

theorem find?_eq_some_of_pairwise {α : Type} {p : α → Bool} {x : α} {xs : List α}
    (h : xs.Pairwise fun y z => p y = true → p z = true → False) (hx : x ∈ xs) (hp : p x = true) :
    xs.find? p = some x := by
  induction xs with
  | nil => cases hx
  | cons y ys ih =>
    obtain ⟨hy, hys⟩ := List.pairwise_cons.mp h
    rcases List.mem_cons.mp hx with rfl | hx
    · exact List.find?_cons_of_pos hp
    · rw [List.find?_cons_of_neg fun hpy => hy x hx hpy hp, ih hys hx]

theorem members_eq {fields : List FieldDecl} {members : List Member}
    (h : List.Forall₂ (fun f m => m.field = f.name) fields members) :
    members = (fields.zip (members.map (·.column))).map fun x => ⟨x.1.name, x.2⟩ := by
  induction h with
  | nil => rfl
  | cons hfield _ ih => rw [List.map_cons, List.zip_cons_cons, List.map_cons, ← ih, ← hfield]

theorem conflict?_eq_none_iff_fields {fields : List FieldDecl} {members : List Member}
    (h : List.Forall₂ (fun f m => f.member = .ok m) fields members) : conflict? members = none ↔
      (fields.Pairwise fun f f' => ∀ c c', f.Resolves c → f'.Resolves c' →
        c.kind = .identifier → c'.kind ≠ .identifier) ∧
      fields.Pairwise fun f f' => ∀ c c', f.Resolves c → f'.Resolves c' → c.name ≠ c'.name := by
  have hcolumns : List.Forall₂ FieldDecl.Resolves fields (members.map (·.column)) :=
    List.forall₂_map_right_iff.mpr (h.imp fun f m hm => (FieldDecl.member_eq_ok_iff.mp hm).2.2)
  have hunique : ∀ f ∈ fields, ∀ c c', f.Resolves c → f.Resolves c' → c = c' := by
    intro f hf c c'
    obtain ⟨m, hm⟩ := exists_mapM_eq_ok_iff.mp ⟨members, mapM_eq_ok_iff.mpr h⟩ f hf
    exact FieldDecl.Resolves.unique (FieldDecl.member_eq_ok_iff.mp hm).1
  rw [conflict?_eq_none_iff, pairwise_iff_of_forall₂ hcolumns hunique, pairwise_iff_of_forall₂ hcolumns hunique,
    List.pairwise_map, List.pairwise_map]

/-- **The layout of a declaration is coherent.** -/
theorem coherent_of_layout (h : d.layout = .ok l) : d.Coherent l := by
  obtain ⟨htable, -, hmembers, hconflict, -⟩ := layout_eq_ok_iff.mp h
  obtain ⟨-, -, i, hlast, hsets, -⟩ := tableName_eq_ok_iff.mp htable
  have hmembers := (mapM_eq_ok_iff.mp hmembers).imp fun f m hm => (FieldDecl.member_eq_ok_iff.mp hm).2
  have hzip : l.members = (d.fields.zip l.columns).map fun x => ⟨x.1.name, x.2⟩ :=
    members_eq (hmembers.imp fun f m hm => hm.1)
  obtain ⟨hidentifiers, hnames⟩ := conflict?_eq_none_iff.mp hconflict
  have hidentifiers : l.columns.Pairwise fun c c' => c.kind = .identifier → c'.kind ≠ .identifier :=
    List.pairwise_map.mpr hidentifiers
  have hnames : l.columns.Pairwise fun c c' => c.name ≠ c'.name := List.pairwise_map.mpr hnames
  refine ⟨⟨i, hlast, hsets⟩, ?_, ?_, ?_, ?_, ?_, ?_⟩
  · exact List.forall₂_map_right_iff.mpr (hmembers.imp fun f m hm => hm.2)
  · rw [Layout.reads, hzip, List.map_map]
    rfl
  · intro typeOf row
    rw [Record.read, Layout.record, hzip, List.map_map, List.mapM_map]
    rfl
  · rw [Layout.constants, hzip, List.map_map]
    rfl
  · intro typeOf c hc
    refine find?_eq_some_of_pairwise (hnames.imp fun hne hc hc' => hne ?_) hc (beq_self_eq_true _)
    exact (beq_iff_eq.mp hc).trans (beq_iff_eq.mp hc').symm
  · intro typeOf c hc hkind
    have hfind : l.columns.find? (·.kind == .identifier) = some c :=
      find?_eq_some_of_pairwise (hidentifiers.imp fun hne hc hc' => hne (beq_iff_eq.mp hc) (beq_iff_eq.mp hc')) hc
        (beq_iff_eq.mpr hkind)
    rw [Record.idColumn, show (l.record typeOf).columns = l.columns from rfl, hfind]

/-- **What a declaration makes**: an acceptable one has a layout, which is coherent, and any other one has
none. -/
structure Faithful (d : Declaration) : Prop where
  accepted_iff : (∃ l, d.layout = .ok l) ↔ d.Acceptable
  coherent : ∀ l, d.layout = .ok l → d.Coherent l

theorem layout_faithful (d : Declaration) : d.Faithful := by
  refine ⟨⟨?_, fun h => ?_⟩, fun l => coherent_of_layout⟩
  · rintro ⟨l, h⟩
    obtain ⟨htable, hshape, hmembers, hconflict, -⟩ := layout_eq_ok_iff.mp h
    obtain ⟨hlists, htables, i, hlast, hsets, hne⟩ := tableName_eq_ok_iff.mp htable
    obtain ⟨hidentifiers, hcolumns⟩ := (conflict?_eq_none_iff_fields (mapM_eq_ok_iff.mp hmembers)).mp hconflict
    refine ⟨hshape, hlists, htables, ⟨i, l.table, hlast, hsets, hne⟩, fun f hf => ?_, hidentifiers, hcolumns⟩
    exact FieldDecl.exists_member_iff.mp (exists_mapM_eq_ok_iff.mp ⟨l.members, hmembers⟩ f hf)
  · obtain ⟨i, table, hlast, hsets, hne⟩ := h.table
    obtain ⟨members, hmembers⟩ := exists_mapM_eq_ok_iff.mpr fun f hf =>
      FieldDecl.exists_member_iff.mpr (h.fields f hf)
    have htable := tableName_eq_ok_iff.mpr ⟨h.lists, h.tables, i, hlast, hsets, hne⟩
    have hconflict := (conflict?_eq_none_iff_fields (mapM_eq_ok_iff.mp hmembers)).mpr ⟨h.identifiers, h.columns⟩
    exact ⟨⟨d.name, table, members⟩, layout_eq_ok_iff.mpr ⟨htable, h.shape, hmembers, hconflict, rfl⟩⟩

/-- A key with a column of another name, by two attributes, and an optional document in a field that is named by
a word of the language. -/
example : (Declaration.mk "Account" .named
      [⟨"derive", .items []⟩, ⟨"orm", .items [⟨"table", some (.text "accounts")⟩]⟩]
      [⟨"key", .name "String", [⟨"orm", .items [⟨"id", none⟩]⟩,
          ⟨"orm", .items [⟨"column", some (.text "account_id")⟩]⟩]⟩,
        ⟨"r#type", .path false ["Option"] [.type (.name "Json")], []⟩]).layout =
    .ok ⟨"Account", "accounts", [⟨"key", ⟨"account_id", .identifier, false⟩⟩,
      ⟨"r#type", ⟨"type", .structured, true⟩⟩]⟩ := rfl

end Declaration

end TableGateway
