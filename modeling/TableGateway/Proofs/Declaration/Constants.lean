import TableGateway.Proofs.Declaration.Layout

/-! # Constants and their names

The constant for a field is called by the upper case of the field's name. Several names have the same upper case, so
the constants of a layout may clash although its fields and its columns are all different. They do just where the
names of two fields have one upper case. In ASCII such names differ in the case of letters alone, and so names in
lower case never clash there; beyond it they may, as one with `ß` and one with `ss` do.

* `Text.upper_eq_upper_iff` : texts in ASCII of one upper case
* `Declaration.constants_distinct_iff` : when the constants of a layout are all different
* `Declaration.lowercase_constants_clash` : a layout whose constants are not -/

namespace TableGateway

namespace Text

variable {c : Char} {s s' : String}

/-! ### Upper case in ASCII -/

/-- **A text in ASCII.** -/
def Ascii (s : String) : Prop := ∀ c ∈ s.toList, c.toNat < 128

/-- **A text in ASCII without capital letters.** -/
def Lowercase (s : String) : Prop := ∀ c ∈ s.toList, c.toNat < 128 ∧ c.isUpper = false

theorem find?_upperExpansions (h : c.toNat < 128) : upperExpansions.find? (·.1 == c.toNat) = none := by
  have hbeyond : upperExpansions.toList.all (fun e => 128 ≤ e.1) = true := by decide
  rw [Array.find?_eq_none]
  intro e he heq
  have hle := of_decide_eq_true (List.all_eq_true.mp hbeyond e (Array.mem_toList_iff.mpr he))
  rw [← beq_iff_eq.mp heq] at h
  omega

theorem find?_upperRuns (h : c.toNat < 128) :
    (upperRuns.find? fun (lo, hi, step, _) => lo ≤ c.toNat && c.toNat ≤ hi && (c.toNat - lo) % step == 0) =
      if 0x61 ≤ c.toNat ∧ c.toNat ≤ 0x7A then some (0x61, 0x7A, 1, 0x41) else none := by
  have hbeyond : upperRuns.toList.tail.all (fun e => 128 ≤ e.1) = true := by decide
  have hruns : upperRuns.toList = (0x61, 0x7A, 1, 0x41) :: upperRuns.toList.tail := rfl
  have hrest : (upperRuns.toList.tail.find? fun (lo, hi, step, _) =>
      lo ≤ c.toNat && c.toNat ≤ hi && (c.toNat - lo) % step == 0) = none := by
    rw [List.find?_eq_none]
    rintro ⟨lo, hi, step, image⟩ he
    have hle := of_decide_eq_true (List.all_eq_true.mp hbeyond _ he)
    simp only [Bool.and_eq_true, decide_eq_true_eq, not_and]
    omega
  rw [← Array.find?_toList, hruns, List.find?_cons, hrest]
  by_cases hlo : 0x61 ≤ c.toNat <;> by_cases hhi : c.toNat ≤ 0x7A <;> simp [hlo, hhi, Nat.mod_one]

/-- **The upper case of a character of ASCII** is one character. -/
theorem upperChar_of_lt (h : c.toNat < 128) : upperChar c = [c.toUpper] := by
  have hletters : ∀ n < 128, Char.toUpper (Char.ofNat n) =
      if 0x61 ≤ n ∧ n ≤ 0x7A then Char.ofNat (0x41 + (n - 0x61)) else Char.ofNat n := by decide
  have hc := hletters c.toNat h
  rw [Char.ofNat_toNat] at hc
  unfold upperChar
  rw [find?_upperExpansions h, find?_upperRuns h, hc]
  split_ifs <;> rfl

theorem upper_eq_ofList (h : Ascii s) : upper s = String.ofList (s.toList.map Char.toUpper) := by
  rw [upper, List.map_eq_flatMap, List.flatMap_congr fun c hc => upperChar_of_lt (h c hc)]

/-- **Texts in ASCII have one upper case** just if they differ in the case of letters alone. -/
theorem upper_eq_upper_iff (h : Ascii s) (h' : Ascii s') :
    upper s = upper s' ↔ s.toList.map Char.toUpper = s'.toList.map Char.toUpper := by
  rw [upper_eq_ofList h, upper_eq_ofList h', String.ofList_inj]

theorem Lowercase.ascii (h : Lowercase s) : Ascii s := fun c hc => (h c hc).1

theorem Lowercase.map_toLower (h : Lowercase s) : (s.toList.map Char.toUpper).map Char.toLower = s.toList := by
  have hletters : ∀ n < 128, (Char.ofNat n).isUpper = false → (Char.ofNat n).toUpper.toLower = Char.ofNat n := by
    decide
  have hback : ∀ c ∈ s.toList, c.toUpper.toLower = c := by
    intro c hc
    have hc' := hletters c.toNat (h c hc).1
    rw [Char.ofNat_toNat] at hc'
    exact hc' (h c hc).2
  rw [List.map_map]
  exact (List.map_congr_left hback).trans (List.map_id _)

theorem Lowercase.eq_of_upper_eq (h : Lowercase s) (h' : Lowercase s') (heq : upper s = upper s') : s = s' := by
  have hmap := congrArg (List.map Char.toLower) ((upper_eq_upper_iff h.ascii h'.ascii).mp heq)
  rw [h.map_toLower, h'.map_toLower] at hmap
  exact String.toList_inj.mp hmap

end Text

namespace Declaration

variable {d : Declaration} {l : Layout}

/-! ### Constants that clash -/

theorem constantName_eq_iff {field field' : String} : Layout.constantName field = Layout.constantName field' ↔
    Text.upper (plainName field) = Text.upper (plainName field') := by
  rw [Layout.constantName, Layout.constantName, ← String.toList_inj, String.toList_append, String.toList_append,
    List.append_right_inj, String.toList_inj]

theorem constantNames_eq (h : d.layout = .ok l) :
    l.constants.map Prod.fst = d.fields.map fun f => Layout.constantName f.name := by
  have hcoherent := coherent_of_layout h
  rw [hcoherent.constants, List.map_map]
  have hfst : (Prod.fst ∘ fun x : FieldDecl × Column => (Layout.constantName x.1.name, x.2.name)) =
      (fun f : FieldDecl => Layout.constantName f.name) ∘ Prod.fst := rfl
  rw [hfst, ← List.map_map, List.map_fst_zip (Nat.le_of_eq hcoherent.columns.length_eq)]

/-- **When the constants of a layout are all different.** -/
structure DistinctConstants (d : Declaration) (l : Layout) : Prop where
  /-- The constants are all different just if no two fields have names of one upper case. -/
  nodup_iff : (l.constants.map Prod.fst).Nodup ↔
    d.fields.Pairwise fun f f' => Text.upper (plainName f.name) ≠ Text.upper (plainName f'.name)
  /-- Two names in ASCII clash just if they differ in the case of letters alone. -/
  clash_iff : ∀ f ∈ d.fields, ∀ f' ∈ d.fields, Text.Ascii (plainName f.name) → Text.Ascii (plainName f'.name) →
    (Layout.constantName f.name = Layout.constantName f'.name ↔
      (plainName f.name).toList.map Char.toUpper = (plainName f'.name).toList.map Char.toUpper)
  /-- Different names in ASCII without capital letters do not clash. -/
  lowercase : (∀ f ∈ d.fields, Text.Lowercase (plainName f.name)) →
    (d.fields.map fun f => plainName f.name).Nodup → (l.constants.map Prod.fst).Nodup

theorem constants_distinct_iff (h : d.layout = .ok l) : d.DistinctConstants l := by
  have hiff : (l.constants.map Prod.fst).Nodup ↔
      d.fields.Pairwise fun f f' => Text.upper (plainName f.name) ≠ Text.upper (plainName f'.name) := by
    rw [constantNames_eq h, List.Nodup, List.pairwise_map]
    simp only [ne_eq, constantName_eq_iff]
  refine ⟨hiff, fun f _ f' _ hf hf' => ?_, fun hlower hnames => hiff.mpr ?_⟩
  · rw [constantName_eq_iff, Text.upper_eq_upper_iff hf hf']
  · rw [List.Nodup, List.pairwise_map] at hnames
    refine hnames.imp_of_mem fun hf hf' hne heq => hne ?_
    exact (hlower _ hf).eq_of_upper_eq (hlower _ hf') heq

/-- A declaration of two fields that are spelled alike in capital letters, each with a column of its own. -/
def partDeclaration : Declaration where
  name := "Part"
  shape := .named
  attributes := [⟨"orm", .items [⟨"table", some (.text "parts")⟩]⟩]
  fields := [⟨"maße", .name "String", []⟩, ⟨"masse", .name "f64", []⟩]

/-- The layout of `partDeclaration`. -/
def partLayout : Layout where
  name := "Part"
  table := "parts"
  members := [⟨"maße", ⟨"maße", .scalar, false⟩⟩, ⟨"masse", ⟨"masse", .scalar, false⟩⟩]

theorem partConstants_distinct_iff : partDeclaration.layout = .ok partLayout ∧
    partDeclaration.DistinctConstants partLayout :=
  ⟨rfl, constants_distinct_iff rfl⟩

/-- **Different fields with different columns, and yet one constant twice.** -/
theorem lowercase_constants_clash : partDeclaration.layout = .ok partLayout ∧
    (partDeclaration.fields.map FieldDecl.name).Nodup ∧ (partLayout.columns.map Column.name).Nodup ∧
    ¬ (partLayout.constants.map Prod.fst).Nodup :=
  ⟨rfl, by decide, by decide, by decide +kernel⟩

end Declaration

end TableGateway
