import TableGateway.Proofs.Declaration.Layout
import TableGateway.Proofs.Input.Check

/-! # Kinds that are told by a name

Where a field has no mark and its type is no document, a name tells what its column is for. It is the name of the
column and not that of the field: a field called `id` whose column is called otherwise is no identifier, its column
is one that callers may set, and rows are not identified by it. As long as a field does not name its column the two
names are the same.

* `kindOfName` : the kind that a name tells
* `Record.updates_iff`, `Record.creates_iff` : the columns that callers can set
* `Declaration.kinds_told_by_columns` : what becomes of a field whose kind is told by a name
* `Declaration.renamed_id_writable` : a field called `id` that callers can set -/

namespace TableGateway

/-! ### Columns that callers can set -/

namespace Record

variable {r : Record} {name : String}

/-- **A column that can be set in an update**: it is in one that passes its check. -/
def Updates (r : Record) (name : String) : Prop := ∃ u : Update, name ∈ u.keys ∧ Update.offence? r u = none

/-- **A column that can be set in a new record.** -/
def Creates (r : Record) (name : String) : Prop := ∃ v : Create, name ∈ v.keys ∧ Create.offence? r v = none

theorem updates_iff : r.Updates name ↔ r.assignment.Allows name := by
  have hpasses : ∀ u : Update, Update.offence? r u = none ↔ ∀ key ∈ u.keys, r.assignment.Allows key := fun u =>
    r.enforced_assignment.findSome?_eq_none_iff u.keys
  constructor
  · rintro ⟨u, hname, hu⟩
    exact (hpasses u).mp hu name hname
  · intro hallows
    obtain ⟨u, hkeys⟩ := Entries.exists_keys_iff [name] Value.null
    refine ⟨u, (hkeys name).mpr List.mem_cons_self, (hpasses u).mpr fun key hkey => ?_⟩
    have heq : key = name := List.mem_singleton.mp ((hkeys key).mp hkey)
    exact heq ▸ hallows

theorem assignment_allows_of_mem_absent (hdistinct : (r.columns.map Column.name).Nodup) {names : List String}
    (h : name ∈ r.absent names) : r.assignment.Allows name := by
  obtain ⟨c, hmem, rfl⟩ := List.mem_map.mp h
  obtain ⟨hc, hdecide⟩ := List.mem_filter.mp hmem
  have hrequires : Requires c := (of_decide_eq_true hdecide).1
  exact ⟨c, .of_mem hdistinct hc, hrequires.1⟩

theorem creates_iff (hdistinct : (r.columns.map Column.name).Nodup) :
    r.Creates name ↔ r.assignment.Allows name := by
  constructor
  · rintro ⟨v, hname, hv⟩
    exact ((r.create_offence?_eq_none_iff v).mp hv).1 name hname
  · intro hallows
    obtain ⟨v, hkeys⟩ := Entries.exists_keys_iff (name :: r.absent []) Value.null
    have hallowed : ∀ key ∈ v.keys, r.assignment.Allows key := by
      intro key hkey
      rcases List.mem_cons.mp ((hkeys key).mp hkey) with rfl | habsent
      · exact hallows
      · exact assignment_allows_of_mem_absent hdistinct habsent
    have hrequired : ∀ c ∈ r.columns, Requires c → c.name ∈ v.keys := by
      intro c hc hrequires
      have habsent : c.name ∈ r.absent [] :=
        List.mem_map_of_mem (List.mem_filter.mpr ⟨hc, decide_eq_true ⟨hrequires, List.not_mem_nil⟩⟩)
      exact (hkeys c.name).mpr (List.mem_cons_of_mem _ habsent)
    exact ⟨v, (hkeys name).mpr List.mem_cons_self, (r.create_offence?_eq_none_iff v).mpr ⟨hallowed, hrequired⟩⟩

end Record

namespace Declaration

/-! ### What a name tells -/

/-- **The kind that a name tells.** -/
def kindOfName (name : String) : Kind :=
  if name = "id" then .identifier
  else if name = "created_at" ∨ name = "updated_at" then .timestamp
  else .scalar

theorem kindOfName_eq_identifier_iff {name : String} : kindOfName name = .identifier ↔ name = "id" := by
  unfold kindOfName
  split_ifs with hid htimestamp <;> simp [hid]

theorem kindOfName_writable_iff {name : String} : kindOfName name = .scalar ∨ kindOfName name = .structured ↔
    name ∉ ["id", "created_at", "updated_at"] := by
  unfold kindOfName
  simp only [List.mem_cons, List.not_mem_nil, or_false, not_or]
  split_ifs with hid htimestamp
  · simp [hid]
  · rcases htimestamp with rfl | rfl <;> simp
  · exact iff_of_true (.inl rfl) ⟨hid, not_or.mp htimestamp⟩

namespace FieldDecl

variable {f : FieldDecl} {column : String} {kind : Kind}

/-- **A field whose kind is told by a name**: it has no mark, and its type holds no document. -/
structure Plain (f : FieldDecl) : Prop where
  unmarked : ∀ kind, ¬ f.Marked kind
  type : ¬ f.type.HoldsDocument

theorem Plain.kind_eq (h : f.Plain) (hserves : f.Serves column kind) : kind = kindOfName column := by
  have husual : usualKind (f.type.optionOf?.getD f.type) column =
      if (f.type.optionOf?.getD f.type).isDocument then .structured else kindOfName column := rfl
  rw [← (usualKind_iff h.unmarked).mp hserves, husual, if_neg (TypeExpr.holdsDocument_iff.not.mpr h.type)]

/-- **What becomes of a field whose kind is told by a name.** -/
structure ToldByColumn (f : FieldDecl) (c : Column) (r : Record) : Prop where
  /-- The column is called by what the field names last, or else as the field. -/
  named : f.Named c.name
  /-- The name of the column tells its kind. -/
  kind : c.kind = kindOfName c.name
  /-- The field has the kind that its own name tells just if both names tell the same. -/
  kept_iff : c.kind = kindOfName (plainName f.name) ↔ kindOfName c.name = kindOfName (plainName f.name)
  /-- Callers can set the column just if it is called neither `id` nor as a timestamp. -/
  updates_iff : r.Updates c.name ↔ c.name ∉ ["id", "created_at", "updated_at"]
  creates_iff : r.Creates c.name ↔ c.name ∉ ["id", "created_at", "updated_at"]
  /-- Rows are identified by the column just if it is called `id`. -/
  idColumn_iff : r.idColumn = c.name ↔ c.name = "id"

end FieldDecl

/-! ### Layouts -/

variable {d : Declaration} {l : Layout}

theorem nodup_columnNames (h : d.layout = .ok l) : (l.columns.map Column.name).Nodup := by
  obtain ⟨-, -, -, hconflict, -⟩ := layout_eq_ok_iff.mp h
  rw [List.Nodup, List.pairwise_map, Layout.columns, List.pairwise_map]
  exact (conflict?_eq_none_iff.mp hconflict).2

theorem Coherent.allows_iff (h : d.Coherent l) (typeOf : String → FieldType) {c : Column} (hc : c ∈ l.columns) :
    (l.record typeOf).assignment.Allows c.name ↔ c.kind = .scalar ∨ c.kind = .structured :=
  Record.exists_declares_iff (h.lookup typeOf c hc) _

theorem Coherent.idColumn_eq_iff (h : d.Coherent l) (typeOf : String → FieldType) {c : Column} (hc : c ∈ l.columns) :
    (l.record typeOf).idColumn = c.name ↔
      c.kind = .identifier ∨ c.name = "id" ∧ ∀ c' ∈ l.columns, c'.kind ≠ .identifier := by
  constructor
  · intro hname
    by_cases hid : ∃ c' ∈ l.columns, c'.kind = .identifier
    · obtain ⟨c', hc', hkind⟩ := hid
      have hlookup := h.lookup typeOf c' hc'
      rw [← h.idColumn typeOf c' hc' hkind, hname, h.lookup typeOf c hc] at hlookup
      exact .inl (Option.some.inj hlookup ▸ hkind)
    · have hnone : ∀ c' ∈ l.columns, c'.kind ≠ .identifier := fun c' hc' hkind => hid ⟨c', hc', hkind⟩
      have hcalled : (l.record typeOf).idColumn = "id" := Record.idColumn_eq_id hnone
      exact .inr ⟨hname.symm.trans hcalled, hnone⟩
  · rintro (hkind | ⟨hname, hnone⟩)
    · exact h.idColumn typeOf c hc hkind
    · rw [hname]
      exact Record.idColumn_eq_id hnone

/-- **The kinds of a layout that are told by names are told by the names of columns.** -/
theorem kinds_told_by_columns (h : d.layout = .ok l) (typeOf : String → FieldType) :
    ∀ x ∈ d.fields.zip l.columns, x.1.Plain → x.1.ToldByColumn x.2 (l.record typeOf) := by
  rintro ⟨f, c⟩ hx hplain
  have hcoherent := coherent_of_layout h
  have hresolves : f.Resolves c := (List.forall₂_iff_zip.mp hcoherent.columns).2 hx
  have hc : c ∈ l.columns := (List.of_mem_zip hx).2
  have hkind : c.kind = kindOfName c.name := hplain.kind_eq hresolves.serves
  have hwritable : (l.record typeOf).assignment.Allows c.name ↔ c.name ∉ ["id", "created_at", "updated_at"] := by
    rw [hcoherent.allows_iff typeOf hc, hkind, kindOfName_writable_iff]
  refine ⟨hresolves.named, hkind, by rw [hkind], Record.updates_iff.trans hwritable,
    (Record.creates_iff (nodup_columnNames h)).trans hwritable, ?_⟩
  rw [hcoherent.idColumn_eq_iff typeOf hc, hkind, kindOfName_eq_identifier_iff]
  exact ⟨fun hname => hname.elim id And.left, .inl⟩

/-- A key that is called `id` and has a column of another name. -/
def ticketKey : FieldDecl := ⟨"id", .name "String", [⟨"orm", .items [⟨"column", some (.text "ticket_no")⟩]⟩]⟩

/-- A declaration with such a key. -/
def ticketDeclaration : Declaration where
  name := "Ticket"
  shape := .named
  attributes := [⟨"orm", .items [⟨"table", some (.text "tickets")⟩]⟩]
  fields := [ticketKey, ⟨"created_at", .name "String", []⟩]

/-- The layout of `ticketDeclaration`. -/
def ticketLayout : Layout where
  name := "Ticket"
  table := "tickets"
  members := [⟨"id", ⟨"ticket_no", .scalar, false⟩⟩, ⟨"created_at", ⟨"created_at", .timestamp, false⟩⟩]

theorem plain_ticketKey : ticketKey.Plain where
  unmarked := by
    rintro kind ⟨i, hi, hmarks⟩
    obtain rfl := List.mem_singleton.mp hi
    exact hmarks.name_ne rfl
  type := TypeExpr.holdsDocument_iff.not.mp (by decide)

theorem ticketKey_told_by_column : ticketDeclaration.layout = .ok ticketLayout ∧
    (ticketKey, ⟨"ticket_no", .scalar, false⟩) ∈ ticketDeclaration.fields.zip ticketLayout.columns ∧
    ticketKey.Plain ∧
    ticketKey.ToldByColumn ⟨"ticket_no", .scalar, false⟩ (ticketLayout.record fun _ => .text) := by
  have hlayout : ticketDeclaration.layout = .ok ticketLayout := rfl
  have hkey : (ticketKey, ⟨"ticket_no", .scalar, false⟩) ∈ ticketDeclaration.fields.zip ticketLayout.columns :=
    List.mem_cons_self
  exact ⟨hlayout, hkey, plain_ticketKey, kinds_told_by_columns hlayout (fun _ => .text) _ hkey plain_ticketKey⟩

/-- **A field called `id` that is no identifier**: callers can set its column, and rows are identified by a column
that there is not. -/
theorem renamed_id_writable : ticketDeclaration.layout = .ok ticketLayout ∧
    (ticketKey, ⟨"ticket_no", .scalar, false⟩) ∈ ticketDeclaration.fields.zip ticketLayout.columns ∧
    ticketKey.name = "id" ∧ ticketKey.Plain ∧
    (ticketLayout.record fun _ => .text).Updates "ticket_no" ∧
    (ticketLayout.record fun _ => .text).Creates "ticket_no" ∧
    (ticketLayout.record fun _ => .text).idColumn ∉ ticketLayout.columns.map Column.name :=
  ⟨rfl, List.mem_cons_self, rfl, plain_ticketKey,
    ⟨Entries.empty.put "ticket_no" .null, List.mem_cons_self, rfl⟩,
    ⟨Entries.empty.put "ticket_no" .null, List.mem_cons_self, rfl⟩, by decide⟩

end Declaration

end TableGateway
