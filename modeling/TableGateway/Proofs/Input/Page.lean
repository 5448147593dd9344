import Mathlib.Algebra.Order.Ring.Nat
import Mathlib.Logic.ExistsUnique
import TableGateway.Sql.Clause

/-! # Pages of a list

The pages of one size cut a list into windows that lie side by side: every row stands in the window of one page
and of no other. The offset of a page is a product that may leave the 64 bits of a number and then the 63 bits of
a value, and at either limit it stays where it is. A page that far out begins behind all rows that can be counted,
and a page that long is the first one and the only one.

* `mem_window_iff` : the windows lie side by side up to the limit of a value
* `Page.shows_iff` : the page that shows a row
* `Page.pages_partition` : what the pages of a list are -/

namespace TableGateway

open TableGateway.Sql

/-! ### Windows -/

/-- The greatest number that a value can hold. -/
def greatestRow : Nat := 2 ^ 63 - 1

/-- Where the page after `n` others of a size begins. -/
def windowStart (n size : Nat) : Nat := min (n * size) greatestRow

/-- How many rows a page of a size has. -/
def windowLength (size : Nat) : Nat := min size greatestRow

theorem windowStart_le (n size : Nat) : windowStart n size ≤ greatestRow := Nat.min_le_right _ _

theorem windowLength_le (size : Nat) : windowLength size ≤ greatestRow := Nat.min_le_right _ _

theorem windowStart_mono {m n size size' : Nat} (hn : m ≤ n) (hsize : size ≤ size') :
    windowStart m size ≤ windowStart n size' := by
  have hmul : m * size ≤ n * size' := Nat.mul_le_mul hn hsize
  unfold windowStart
  omega

/-- **The windows lie side by side**: a row that can be counted stands in the window after as many others as its
number holds whole pages. -/
theorem mem_window_iff {n size i : Nat} (hsize : 0 < size) (hi : i < greatestRow) :
    windowStart n size ≤ i ∧ i < windowStart n size + windowLength size ↔ n = i / size := by
  unfold windowStart windowLength
  constructor
  · rintro ⟨hlow, hhigh⟩
    -- a start at the greatest number would lie behind the row, so it is the product itself
    have hstart : n * size ≤ i := by omega
    have hend : i < (n + 1) * size := by
      rw [Nat.add_mul, Nat.one_mul]
      omega
    exact (Nat.div_eq_of_lt_le hstart hend).symm
  · rintro rfl
    have hstart : i / size * size ≤ i := Nat.div_mul_le_self i size
    have hend : i < i / size * size + size := Nat.lt_div_mul_add hsize
    omega

/-! ### The clause of a page -/

namespace Page

/-- A number of rows is bound as itself, or as the greatest number that a value can hold. -/
theorem exists_rows_eq (n : UInt64) : ∃ l : Int64, rows n = .int l ∧ l.toInt = windowLength n.toNat := by
  have hle : min n.toNat (Nat.pow 2 63 - 1) < 2 ^ 63 := by
    have hpow : Nat.pow 2 63 = 2 ^ 63 := rfl
    omega
  exact ⟨_, rfl, Int64.toInt_ofNat_of_lt hle⟩

/-- **The clause of a page binds a limit and an offset.** -/
structure Binds (page : Page) (limit offset : Int64) : Prop where
  text : (pageClause (some page)).text = " LIMIT $1 OFFSET $2"
  params : (pageClause (some page)).params = [.int limit, .int offset]

theorem Binds.unique {page : Page} {limit limit' offset offset' : Int64} (h : page.Binds limit offset)
    (h' : page.Binds limit' offset') : limit = limit' ∧ offset = offset' := by
  simpa using h.params.symm.trans h'.params

theorem exists_binds (limit offset : UInt64) : ∃ l o : Int64, Binds ⟨some limit, some offset⟩ l o ∧
    l.toInt = windowLength limit.toNat ∧ o.toInt = windowLength offset.toNat := by
  obtain ⟨l, hl, hlimit⟩ := exists_rows_eq limit
  obtain ⟨o, ho, hoffset⟩ := exists_rows_eq offset
  refine ⟨l, o, ⟨rfl, ?_⟩, hlimit, hoffset⟩
  rw [← hl, ← ho]
  rfl

/-! ### Pages by their numbers -/

variable {number number' size size' : UInt64} {page page' : Page} {limit offset : Int64} {i : Nat}

theorem ofNumber_eq_error_iff {fault : Fault} :
    ofNumber number size = .error fault ↔ number = 0 ∧ fault = .validation (.page 0) := by
  unfold ofNumber
  split
  · next h => rw [h]; simp [eq_comm]
  · next h => simp [h]

/-- **What is bound for a page**: the two limits act as one, since whatever stays at the greatest number of 64 bits
stays at the greatest that a value can hold as well. -/
theorem exists_ofNumber_eq (size : UInt64) (h : number ≠ 0) : ∃ page l o, ofNumber number size = .ok page ∧
    page.Binds l o ∧ l.toInt = windowLength size.toNat ∧
    o.toInt = windowStart (number.toNat - 1) size.toNat := by
  have hpow : Nat.pow 2 64 = 2 ^ 64 := rfl
  generalize hrows : min ((number.toNat - 1) * size.toNat) (Nat.pow 2 64 - 1) = rows
  have hlt : rows < 2 ^ 64 := by omega
  have hstart : windowLength rows = windowStart (number.toNat - 1) size.toNat := by
    unfold windowLength windowStart greatestRow
    omega
  obtain ⟨l, o, hbinds, hlimit, hoffset⟩ := exists_binds size (UInt64.ofNat rows)
  rw [UInt64.toNat_ofNat_of_lt' hlt, hstart] at hoffset
  refine ⟨_, l, o, ?_, hbinds, hlimit, hoffset⟩
  rw [ofNumber, if_neg h, hrows]

theorem ne_zero_of_ofNumber (h : ofNumber number size = .ok page) : number ≠ 0 := by
  rintro rfl
  cases h

theorem exists_binds_of_ofNumber (h : ofNumber number size = .ok page) :
    ∃ limit offset, page.Binds limit offset := by
  obtain ⟨page', l, o, hpage, hbinds, -⟩ := exists_ofNumber_eq size (ne_zero_of_ofNumber h)
  obtain rfl := Except.ok.inj (h.symm.trans hpage)
  exact ⟨l, o, hbinds⟩

/-- The limit and the offset of a page are the length and the start of its window. -/
theorem toInt_of_binds (hpage : ofNumber number size = .ok page) (h : page.Binds limit offset) :
    limit.toInt = windowLength size.toNat ∧ offset.toInt = windowStart (number.toNat - 1) size.toNat := by
  obtain ⟨page', l, o, hpage', hbinds, hlimit, hoffset⟩ := exists_ofNumber_eq size (ne_zero_of_ofNumber hpage)
  obtain rfl := Except.ok.inj (hpage.symm.trans hpage')
  obtain ⟨rfl, rfl⟩ := h.unique hbinds
  exact ⟨hlimit, hoffset⟩

theorem toNat_pos_of_ne_zero {n : UInt64} (h : n ≠ 0) : 0 < n.toNat :=
  Nat.pos_of_ne_zero fun hzero => h (UInt64.toNat_inj.mp hzero)

/-- **A page shows a row**: the index of the row, counted from zero, lies in the window that begins at the offset
bound for the page and is as long as the limit. -/
def Shows (number size : UInt64) (i : Nat) : Prop :=
  ∃ page limit offset, ofNumber number size = .ok page ∧ page.Binds limit offset ∧
    offset.toInt ≤ i ∧ (i : Int) < offset.toInt + limit.toInt

/-- **The page that shows a row** is the one after as many others as the number of the row holds whole pages. -/
theorem shows_iff (hsize : size ≠ 0) (hi : i < greatestRow) :
    Shows number size i ↔ number.toNat = i / size.toNat + 1 := by
  have hwindow := @mem_window_iff (number.toNat - 1) _ _ (toNat_pos_of_ne_zero hsize) hi
  constructor
  · rintro ⟨page, l, o, hpage, hbinds, hlow, hhigh⟩
    have hnumber := toNat_pos_of_ne_zero (ne_zero_of_ofNumber hpage)
    obtain ⟨hlimit, hoffset⟩ := toInt_of_binds hpage hbinds
    have hdiv := hwindow.mp ⟨by omega, by omega⟩
    omega
  · intro hdiv
    have hnumber : number ≠ 0 := by
      rintro rfl
      cases hdiv
    obtain ⟨page, l, o, hpage, hbinds, hlimit, hoffset⟩ := exists_ofNumber_eq size hnumber
    obtain ⟨hlow, hhigh⟩ := hwindow.mpr (Nat.sub_eq_of_eq_add hdiv)
    exact ⟨page, l, o, hpage, hbinds, by omega, by omega⟩

/-- Every row that can be counted has a page, since its number is one of 64 bits. -/
theorem exists_shows (hsize : size ≠ 0) (hi : i < greatestRow) : ∃ number, Shows number size i := by
  have hlt : i / size.toNat + 1 < 2 ^ 64 := by
    have hdiv := Nat.div_le_self i size.toNat
    unfold greatestRow at hi
    omega
  exact ⟨UInt64.ofNat (i / size.toNat + 1), (shows_iff hsize hi).mpr (UInt64.toNat_ofNat_of_lt' hlt)⟩

theorem ne_zero_of_one_le (h : 1 ≤ size) : size ≠ 0 := by
  rintro rfl
  cases h

/-- **The pages of a list.** -/
structure Paging : Prop where
  /-- Every row that can be counted stands on just one page of a size. -/
  existsUnique : ∀ size : UInt64, 1 ≤ size → ∀ i < greatestRow, ∃! number : UInt64, 1 ≤ number ∧ Shows number size i
  /-- A row stands on the page after as many others as its number holds whole pages. -/
  shows_iff : ∀ size : UInt64, 1 ≤ size → ∀ i < greatestRow, ∀ number,
    Shows number size i ↔ number.toNat = i / size.toNat + 1
  /-- Only page zero is refused. -/
  refused_iff : ∀ number size, (∃ fault, ofNumber number size = .error fault) ↔ number = 0
  /-- For any other page a limit and an offset are bound, which are not negative. -/
  bounded : ∀ number size page, ofNumber number size = .ok page → ∃ limit offset, page.Binds limit offset ∧
    0 ≤ limit.toInt ∧ limit.toInt ≤ greatestRow ∧ 0 ≤ offset.toInt ∧ offset.toInt ≤ greatestRow
  /-- A later page, or one after as many longer pages, does not begin earlier. -/
  offset_mono : ∀ number number' size size' page page' limit limit' offset offset', number ≤ number' → size ≤ size' →
    ofNumber number size = .ok page → ofNumber number' size' = .ok page' → page.Binds limit offset →
    page'.Binds limit' offset' → offset.toInt ≤ offset'.toInt

/-- **The pages of one size cut a list into windows** that lie side by side. -/
theorem pages_partition : Paging where
  existsUnique size hsize i hi := by
    obtain ⟨number, hshows⟩ := exists_shows (ne_zero_of_one_le hsize) hi
    have hnumber := (shows_iff (ne_zero_of_one_le hsize) hi).mp hshows
    have hone : 1 ≤ number.toNat := hnumber ▸ Nat.succ_pos _
    refine ⟨number, ⟨UInt64.le_iff_toNat_le.mpr hone, hshows⟩, ?_⟩
    rintro number' ⟨-, hshows'⟩
    have hnumber' := (shows_iff (ne_zero_of_one_le hsize) hi).mp hshows'
    exact UInt64.toNat_inj.mp (hnumber'.trans hnumber.symm)
  shows_iff size hsize i hi number := shows_iff (ne_zero_of_one_le hsize) hi
  refused_iff number size := by simp [ofNumber_eq_error_iff]
  bounded number size page hpage := by
    obtain ⟨limit, offset, hbinds⟩ := exists_binds_of_ofNumber hpage
    obtain ⟨hlimit, hoffset⟩ := toInt_of_binds hpage hbinds
    have hlength := windowLength_le size.toNat
    have hstart := windowStart_le (number.toNat - 1) size.toNat
    exact ⟨limit, offset, hbinds, by omega, by omega, by omega, by omega⟩
  offset_mono := by
    intro number number' size size' page page' limit limit' offset offset' hnumber hsize hpage hpage' h h'
    have hbefore := Nat.sub_le_sub_right (UInt64.le_iff_toNat_le.mp hnumber) 1
    have hstart := windowStart_mono hbefore (UInt64.le_iff_toNat_le.mp hsize)
    have hoffset := (toInt_of_binds hpage h).2
    have hoffset' := (toInt_of_binds hpage' h').2
    omega

end Page

end TableGateway
