import Mathlib.Algebra.Order.Ring.Nat
import Mathlib.Data.List.Basic
import Mathlib.Data.List.TakeWhile
import Mathlib.Tactic.Linarith
import Mathlib.Tactic.Ring
import TableGateway.Wire.Numeric

/-! # Decimals are read back from the wire

The groups of a decimal are its digits at a scale that is a multiple of four, without the zeros in front and,
behind the point, without those at the end. What is read adds the groups up one by one, each at its place behind
the point, and never has to round.

* `ofGroups_groups` : the groups of a number spell it
* `addFraction?_eq` : groups behind the point are added up exactly
* `decode?_encode_of_ne_zero` : a decimal other than zero is read back with its sign and its scale
* `exists_decode?_encode` : every decimal is read back as an equal one -/

namespace TableGateway.Wire.Numeric

open TableGateway.Number

/-! ### Groups -/

/-- **The number that groups spell.** -/
def ofGroups : List Nat → Nat
  | [] => 0
  | g :: gs => g * 10000 ^ gs.length + ofGroups gs

@[simp] theorem ofGroups_nil : ofGroups [] = 0 := rfl

@[simp] theorem ofGroups_cons (g : Nat) (gs : List Nat) :
    ofGroups (g :: gs) = g * 10000 ^ gs.length + ofGroups gs := rfl

theorem ofGroups_append (as bs : List Nat) :
    ofGroups (as ++ bs) = ofGroups as * 10000 ^ bs.length + ofGroups bs := by
  induction as with
  | nil => simp
  | cons a as ih =>
    rw [List.cons_append, ofGroups_cons, ofGroups_cons, ih, List.length_append, pow_add]
    ring

theorem groups_zero : groups 0 = [] := by rw [groups, dif_pos rfl]

theorem groups_of_ne_zero {n : Nat} (h : n ≠ 0) : groups n = groups (n / 10000) ++ [n % 10000] := by
  rw [groups, dif_neg h]

/-- **The groups of a number spell it.** -/
theorem ofGroups_groups (n : Nat) : ofGroups (groups n) = n := by
  induction n using Nat.strongRecOn with
  | ind n ih =>
    by_cases h : n = 0
    · rw [h, groups_zero, ofGroups_nil]
    · rw [groups_of_ne_zero h, ofGroups_append, ih (n / 10000) (by omega)]
      simp
      omega

theorem lt_of_mem_groups {n g : Nat} (hg : g ∈ groups n) : g < 10000 := by
  induction n using Nat.strongRecOn with
  | ind n ih =>
    by_cases h : n = 0
    · rw [h, groups_zero] at hg
      cases hg
    · rw [groups_of_ne_zero h, List.mem_append, List.mem_singleton] at hg
      rcases hg with hg | rfl
      · exact ih (n / 10000) (by omega) hg
      · omega

theorem length_groups_le {k n : Nat} (h : n < 10000 ^ k) : (groups n).length ≤ k := by
  induction k generalizing n with
  | zero =>
    obtain rfl : n = 0 := by simpa using h
    rw [groups_zero, List.length_nil]
  | succ k ih =>
    by_cases hn : n = 0
    · rw [hn, groups_zero, List.length_nil]
      omega
    · rw [groups_of_ne_zero hn, List.length_append, List.length_singleton]
      rw [pow_succ] at h
      have := ih (n := n / 10000) (by omega)
      omega

theorem exists_eq_dropTrailingZeros_append (gs : List Nat) :
    ∃ n, gs = dropTrailingZeros gs ++ List.replicate n 0 := by
  refine ⟨(gs.reverse.takeWhile (· == 0)).length, ?_⟩
  have hzeros : gs.reverse.takeWhile (· == 0) = List.replicate (gs.reverse.takeWhile (· == 0)).length 0 :=
    List.eq_replicate_of_mem fun g hg => by simpa using List.mem_takeWhile_imp hg
  have hsplit := congrArg List.reverse (List.takeWhile_append_dropWhile (p := (· == 0)) (l := gs.reverse))
  rw [List.reverse_append, List.reverse_reverse, hzeros, List.reverse_replicate] at hsplit
  exact hsplit.symm

/-! ### Sums -/

/-- Groups behind the point as a multiple of `10 ^ -S`, the first of them ending at a place. -/
def fractionAt (S : Nat) : List Nat → Nat → Nat
  | [], _ => 0
  | g :: gs, place => g * 10 ^ (S - place) + fractionAt S gs (place + 4)

/-- **Groups without a digit beyond a scale**, the first of them ending at a place. -/
def Clear (scale : Nat) : List Nat → Nat → Prop
  | [], _ => True
  | g :: gs, place => 10 ^ (place - scale) ∣ g ∧ Clear scale gs (place + 4)

theorem fractionAt_append_zeros (S n : Nat) : ∀ (gs : List Nat) (place : Nat),
    fractionAt S (gs ++ List.replicate n 0) place = fractionAt S gs place
  | [], place => by
    rw [List.nil_append, fractionAt]
    induction n generalizing place with
    | zero => rfl
    | succ n ih => rw [List.replicate_succ, fractionAt, ih, Nat.zero_mul]
  | g :: gs, place => by
    rw [List.cons_append, fractionAt, fractionAt, fractionAt_append_zeros S n gs]

theorem Clear.of_append {scale : Nat} {bs : List Nat} : ∀ {as : List Nat} {place : Nat},
    Clear scale (as ++ bs) place → Clear scale as place
  | [], _, _ => trivial
  | _ :: _, _, h => ⟨h.1, Clear.of_append h.2⟩

/-- Groups up to the place `S` spell a multiple of `10 ^ -S`. -/
theorem fractionAt_eq_ofGroups {S : Nat} : ∀ {gs : List Nat} {place : Nat},
    place + 4 * gs.length = S + 4 → fractionAt S gs place = ofGroups gs
  | [], _, _ => rfl
  | g :: gs, place, h => by
    rw [List.length_cons] at h
    have hexponent : S - place = 4 * gs.length := by omega
    rw [fractionAt, ofGroups_cons, hexponent, pow_mul, fractionAt_eq_ofGroups (by omega)]
    norm_num

/-- Groups up to the place `S` have no digit beyond a scale in the last group if their sum has none. -/
theorem clear_of_dvd {S scale : Nat} (hscale : S ≤ scale + 3) : ∀ {gs : List Nat} {place : Nat},
    place + 4 * gs.length = S + 4 → 10 ^ (S - scale) ∣ fractionAt S gs place → Clear scale gs place
  | [], _, _, _ => trivial
  | [g], place, h, hdvd => by
    obtain rfl : place = S := by simpa using h
    simp only [fractionAt, Nat.sub_self, pow_zero, mul_one, add_zero] at hdvd
    exact ⟨hdvd, trivial⟩
  | g :: g' :: gs, place, h, hdvd => by
    rw [List.length_cons, List.length_cons] at h
    have hplace : place - scale = 0 := by omega
    have hhead : 10 ^ (S - scale) ∣ g * 10 ^ (S - place) :=
      Dvd.dvd.mul_left (pow_dvd_pow 10 (by omega)) g
    rw [fractionAt, ← Nat.dvd_add_iff_right hhead] at hdvd
    exact ⟨by rw [hplace, pow_zero]; exact one_dvd g, clear_of_dvd hscale (by simpa using by omega) hdvd⟩

/-! ### Adding up -/

theorem trim_eq : ∀ {place digit : Nat}, (Decimal.trim digit place).2 ≤ place ∧
    (Decimal.trim digit place).1 * 10 ^ (place - (Decimal.trim digit place).2) = digit
  | 0, digit => by simp [Decimal.trim]
  | place + 1, digit => by
    unfold Decimal.trim
    split
    · next h =>
      obtain ⟨hle, heq⟩ := @trim_eq place (digit / 10)
      refine ⟨by omega, ?_⟩
      rw [Nat.succ_sub hle, pow_succ, ← mul_assoc, heq]
      omega
    · simp

/-- Trimming a digit leaves no place that it is clear of. -/
theorem trim_snd_le : ∀ {k place digit : Nat}, 10 ^ k ∣ digit → (Decimal.trim digit place).2 ≤ place - k
  | 0, _, _, _ => trim_eq.1
  | k + 1, 0, _, _ => by simp [Decimal.trim]
  | k + 1, place + 1, digit, h => by
    have hten : digit % 10 = 0 := Nat.mod_eq_zero_of_dvd (dvd_trans (dvd_pow_self 10 k.succ_ne_zero) h)
    have hrest : 10 ^ k ∣ digit / 10 := by
      obtain ⟨c, rfl⟩ := h
      exact ⟨c, by rw [pow_succ, mul_right_comm, Nat.mul_div_cancel _ (by decide)]⟩
    rw [Decimal.trim, if_pos hten]
    have := @trim_snd_le _ place _ hrest
    omega

theorem fit?_of_lt {mantissa scale : Nat} (h : mantissa < 2 ^ 96) : fit? mantissa scale = some (mantissa, scale) := by
  cases scale with
  | zero => exact if_pos h
  | succ scale => exact if_pos h

/-- **A group is added exactly**, if it is clear beyond a scale at which the sum is in range. -/
theorem add?_eq {m s g place S scale bound : Nat} (hs : s ≤ scale) (hscale : scale ≤ S) (hplace : place ≤ S)
    (hclear : 10 ^ (place - scale) ∣ g) (hbound : bound < 2 ^ 96)
    (htotal : m * 10 ^ (S - s) + g * 10 ^ (S - place) ≤ bound * 10 ^ (S - scale)) :
    ∃ m' s', add? (m, s) g place = some (m', s') ∧ s' ≤ scale ∧
      m' * 10 ^ (S - s') = m * 10 ^ (S - s) + g * 10 ^ (S - place) := by
  obtain ⟨hle, heq⟩ := @trim_eq place g
  have hclear := @trim_snd_le _ place _ hclear
  unfold add?
  generalize Decimal.trim g place = trimmed at *
  obtain ⟨d, p⟩ := trimmed
  simp only at hle heq hclear ⊢
  generalize htarget : max s p = target
  have hp : p ≤ scale := by omega
  have hvalue : (m * 10 ^ (target - s) + d * 10 ^ (target - p)) * 10 ^ (S - target) =
      m * 10 ^ (S - s) + g * 10 ^ (S - place) := by
    have hparts : target - s + (S - target) = S - s := by omega
    have hgroup : target - p + (S - target) = place - p + (S - place) := by omega
    rw [add_mul, mul_assoc, mul_assoc, ← pow_add, ← pow_add, hparts, hgroup, ← heq, mul_assoc d, ← pow_add]
  have hlt : m * 10 ^ (target - s) + d * 10 ^ (target - p) < 2 ^ 96 := by
    have hpow : 0 < 10 ^ (S - target) := Nat.pow_pos (by decide)
    refine lt_of_le_of_lt (Nat.le_of_mul_le_mul_right ?_ hpow) hbound
    calc _ = m * 10 ^ (S - s) + g * 10 ^ (S - place) := hvalue
      _ ≤ bound * 10 ^ (S - scale) := htotal
      _ ≤ bound * 10 ^ (S - target) := Nat.mul_le_mul_left _ (Nat.pow_le_pow_right (by decide) (by omega))
  simp only [Nat.pow_eq]
  exact ⟨_, target, fit?_of_lt hlt, by omega, hvalue⟩

/-- **Groups behind the point are added up exactly.** -/
theorem addFraction?_eq {S scale bound : Nat} (hscale : scale ≤ S) (hS : S ≤ 28) (hbound : bound < 2 ^ 96) :
    ∀ {gs : List Nat} {place m s : Nat}, s ≤ scale → place + 4 * gs.length ≤ S + 4 → Clear scale gs place →
      m * 10 ^ (S - s) + fractionAt S gs place ≤ bound * 10 ^ (S - scale) →
      ∃ m' s', addFraction? (m, s) gs place = some (m', s') ∧ s' ≤ scale ∧
        m' * 10 ^ (S - s') = m * 10 ^ (S - s) + fractionAt S gs place
  | [], _, m, s, hs, _, _, _ => ⟨m, s, rfl, hs, rfl⟩
  | g :: gs, place, m, s, hs, hplace, hclear, htotal => by
    rw [fractionAt, ← add_assoc] at htotal
    rw [List.length_cons] at hplace
    obtain ⟨m', s', hadd, hs', hvalue⟩ := add?_eq hs hscale (by omega) hclear.1 hbound
      (le_trans (Nat.le_add_right _ _) htotal)
    rw [← hvalue] at htotal
    obtain ⟨m'', s'', hrest, hs'', hvalue'⟩ := addFraction?_eq hscale hS hbound hs' (by omega) hclear.2 htotal
    refine ⟨m'', s'', ?_, hs'', ?_⟩
    · rw [addFraction?, if_pos (by omega), hadd, Option.bind_some, hrest]
    · rw [hvalue', hvalue, fractionAt, add_assoc]

/-- **Groups before the point are added up**, if their sum is in range. -/
theorem wholePart?_eq {gs : List Nat} (h : ofGroups gs < 2 ^ 96) : wholePart? gs 0 = some (ofGroups gs) := by
  have hfold : ∀ (gs : List Nat) (n : Nat), n * 10000 ^ gs.length + ofGroups gs < 2 ^ 96 →
      gs.foldlM (fun n g => if n * 10000 + g < Nat.pow 2 96 then some (n * 10000 + g) else none) n =
        some (n * 10000 ^ gs.length + ofGroups gs) := by
    intro gs
    induction gs with
    | nil => intro n _; simp
    | cons g gs ih =>
      intro n hn
      have hsum : n * 10000 ^ (g :: gs).length + ofGroups (g :: gs) =
          (n * 10000 + g) * 10000 ^ gs.length + ofGroups gs := by
        rw [List.length_cons, ofGroups_cons, pow_succ]
        ring
      rw [hsum] at hn ⊢
      have hlt : n * 10000 + g < Nat.pow 2 96 := by
        refine lt_of_le_of_lt ?_ hn
        exact le_trans (Nat.le_mul_of_pos_right _ (Nat.pow_pos (by decide))) (Nat.le_add_right _ _)
      rw [List.foldlM_cons, if_pos hlt]
      exact ih _ hn
  have hgroups := hfold gs 0 (by simpa using h)
  rw [Nat.zero_mul, Nat.zero_add] at hgroups
  unfold wholePart?
  rw [hgroups]
  have hzeros : ofGroups gs * Nat.pow 10 (4 * 0) = ofGroups gs := Nat.mul_one _
  simp only [bind, Option.bind_some, hzeros]
  exact if_pos ⟨Nat.zero_le _, h⟩

theorem padDigits_eq {n : Nat} : ∀ {m : Nat}, m * 10 ^ n < 2 ^ 96 → Decimal.padDigits m n = (m * 10 ^ n, 0) := by
  induction n with
  | zero => simp [Decimal.padDigits]
  | succ n ih =>
    intro m h
    rw [pow_succ', ← mul_assoc] at h ⊢
    have hlt : m * 10 < Nat.pow 2 96 :=
      lt_of_le_of_lt (Nat.le_mul_of_pos_right _ (Nat.pow_pos (by decide))) h
    rw [Decimal.padDigits, if_pos hlt, ih h]

theorem rescale_eq {m s scale : Nat} (hm : m ≠ 0) (hs : s ≤ scale) (h : m * 10 ^ (scale - s) < 2 ^ 96) :
    Decimal.rescale m s scale = (m * 10 ^ (scale - s), scale) := by
  unfold Decimal.rescale
  rw [if_neg hm]
  split
  · next hle =>
    obtain rfl := le_antisymm hs hle
    simp [Decimal.dropDigits]
  · simp only [padDigits_eq h, Nat.sub_zero]

/-! ### Packets -/

theorem exists_word_two (n : Nat) : ∃ a b, word 2 n = [a, b] := List.length_eq_two.mp (length_word 2 n)

theorem takeGroups?_flatMap {gs : List Nat} (h : ∀ g ∈ gs, g < 10000) :
    takeGroups? gs.length (gs.flatMap (word 2)) = some gs := by
  induction gs with
  | nil => rfl
  | cons g gs ih =>
    obtain ⟨hg, hgs⟩ := List.forall_mem_cons.mp h
    obtain ⟨a, b, hab⟩ := exists_word_two g
    have hvalue : ofWord [a, b] = g := by
      rw [← hab]
      exact ofWord_word (lt_trans hg (by decide))
    rw [List.flatMap_cons, hab]
    simp only [List.length_cons, List.cons_append, List.nil_append, takeGroups?, ih hgs, hvalue, Option.map_some]

/-- **A header is read back**, and the groups after it. -/
theorem ofBytes?_eq {gs : List Nat} {weight : Int} {sign scale : Nat} (hlength : gs.length < 10000)
    (hweight : -10000 < weight ∧ weight < 10000) (hsign : sign < 65536) (hscale : scale < 65536)
    (h : ∀ g ∈ gs, g < 10000) :
    Packet.ofBytes? (word 2 gs.length ++ signedWord 2 weight ++ word 2 sign ++ word 2 scale ++
      gs.flatMap (word 2)) = some ⟨weight, sign, scale, gs⟩ := by
  have hpow : Nat.pow 256 2 = 65536 := rfl
  have hpow' : Int.pow 256 2 = 65536 := rfl
  have hcount := ofWord_word (show gs.length < Nat.pow 256 2 by omega)
  have hweight := ofSignedWord_signedWord (n := 2) (x := weight) (by omega) (by omega)
  have hsign := ofWord_word (show sign < Nat.pow 256 2 by omega)
  have hscale := ofWord_word (show scale < Nat.pow 256 2 by omega)
  obtain ⟨a, b, hab⟩ := exists_word_two gs.length
  obtain ⟨c, d, hcd⟩ := List.length_eq_two.mp (length_signedWord 2 weight)
  obtain ⟨e, f, hef⟩ := exists_word_two sign
  obtain ⟨g, k, hgk⟩ := exists_word_two scale
  rw [hab] at hcount
  rw [hcd] at hweight
  rw [hef] at hsign
  rw [hgk] at hscale
  rw [hab, hcd, hef, hgk]
  simp only [List.cons_append, List.nil_append, Packet.ofBytes?, hcount, hweight, hsign, hscale,
    takeGroups?_flatMap h, Option.map_some]

/-! ### Decimals -/

theorem ofParts?_eq (d : Decimal) : Decimal.ofParts? d.negative d.mantissa d.scale = some d :=
  dif_pos ⟨d.mantissa_lt, d.scale_le⟩

/-- **The groups of a decimal give it back**: those before the point, and those behind it without zeros at the
end, up to the first place from its scale on that is a multiple of four. -/
theorem parts_eq (d : Decimal) (hd : d.mantissa ≠ 0) {S n place : Nat} {ws fs : List Nat} (hscale : d.scale ≤ S)
    (hS : S ≤ 28) (hnear : S ≤ d.scale + 3) (hplace : place + 4 * (fs ++ List.replicate n 0).length = S + 4)
    (htotal : ofGroups ws * 10 ^ S + ofGroups (fs ++ List.replicate n 0) = d.mantissa * 10 ^ (S - d.scale)) :
    ((wholePart? ws 0).bind fun whole => (addFraction? (whole, 0) fs place).bind fun parts =>
      let (m, s) := Decimal.rescale parts.1 parts.2 (min d.scale 28)
      Decimal.ofParts? d.negative m s) = some d := by
  have hmantissa : d.mantissa < 2 ^ 96 := d.mantissa_lt
  have hpow : 0 < 10 ^ (S - d.scale) := Nat.pow_pos (by decide)
  have hwhole : ofGroups ws < 2 ^ 96 := by
    refine lt_of_le_of_lt (Nat.le_of_mul_le_mul_right ?_ hpow) hmantissa
    calc ofGroups ws * 10 ^ (S - d.scale) ≤ ofGroups ws * 10 ^ S :=
          Nat.mul_le_mul_left _ (Nat.pow_le_pow_right (by decide) (Nat.sub_le _ _))
      _ ≤ d.mantissa * 10 ^ (S - d.scale) := htotal ▸ Nat.le_add_right _ _
  have hfraction := fractionAt_eq_ofGroups hplace
  rw [← hfraction] at htotal
  have hclear : Clear d.scale fs place := by
    refine Clear.of_append (clear_of_dvd hnear hplace ?_)
    rw [Nat.dvd_add_iff_right (Dvd.dvd.mul_left (pow_dvd_pow 10 (Nat.sub_le S d.scale)) (ofGroups ws)), htotal]
    exact dvd_mul_left _ _
  rw [fractionAt_append_zeros] at htotal
  rw [List.length_append] at hplace
  obtain ⟨m, s, hadd, hs, hvalue⟩ := addFraction?_eq hscale hS hmantissa (Nat.zero_le d.scale)
    (m := ofGroups ws) (by omega) hclear (by rw [Nat.sub_zero]; exact htotal.le)
  rw [Nat.sub_zero, htotal] at hvalue
  have hexact : m * 10 ^ (d.scale - s) = d.mantissa := by
    refine Nat.eq_of_mul_eq_mul_right hpow ?_
    rw [mul_assoc, ← pow_add, ← hvalue]
    congr 2
    omega
  have hm : m ≠ 0 := by
    rintro rfl
    exact hd (by rw [← hexact, Nat.zero_mul])
  have hrescale := rescale_eq hm hs (hexact ▸ hmantissa)
  rw [wholePart?_eq hwhole, Option.bind_some, hadd, Option.bind_some, min_eq_left d.scale_le]
  simp only [hrescale, hexact]
  exact ofParts?_eq d

theorem decode?_eq {bytes : List UInt8} {p : Packet} (h : Packet.ofBytes? bytes = some p)
    (hsign : ¬ 0xC000 ≤ p.sign) :
    decode? bytes =
      ((wholePart? (p.groups.take (p.weight + 1).toNat) ((p.weight + 1).toNat - p.groups.length)).bind fun whole =>
        (addFraction? (whole, 0) (p.groups.drop (p.weight + 1).toNat) (4 * ((-p.weight - 1).toNat + 1))).bind
          fun parts =>
            let (m, s) := Decimal.rescale parts.1 parts.2 (min p.scale 28)
            Decimal.ofParts? (p.sign == 0x4000) m s) := by
  unfold decode?
  rw [h]
  simp only [bind, Option.bind_some, if_neg hsign]

/-- **A packet with the groups of a decimal gives it back**: those before the point are as many as the weight says,
and those behind it are what remains without the zeros at their end. -/
theorem decode?_packet (d : Decimal) (hd : d.mantissa ≠ 0) {S n : Nat} {ws fs : List Nat} {weight : Int}
    (hws : ws.length = (weight + 1).toNat) (hlt : ∀ g ∈ ws ++ fs, g < 10000) (hlength : (ws ++ fs).length ≤ 8)
    (hweight : -10000 < weight) (hscale : d.scale ≤ S) (hS : S ≤ 28) (hnear : S ≤ d.scale + 3)
    (hplace : 4 * ((-weight - 1).toNat + 1) + 4 * (fs ++ List.replicate n 0).length = S + 4)
    (htotal : ofGroups ws * 10 ^ S + ofGroups (fs ++ List.replicate n 0) = d.mantissa * 10 ^ (S - d.scale)) :
    decode? (word 2 (ws ++ fs).length ++ signedWord 2 weight ++ word 2 (if d.negative then 0x4000 else 0) ++
      word 2 d.scale ++ (ws ++ fs).flatMap (word 2)) = some d := by
  have hle : ws.length ≤ 8 := Nat.le_trans (by simp) hlength
  have hsign : (if d.negative then 0x4000 else 0) < 65536 ∧ ¬ 0xC000 ≤ (if d.negative then 0x4000 else 0) ∧
      ((if d.negative then 0x4000 else 0) == 0x4000) = d.negative := by
    cases d.negative <;> decide
  have hpacket := ofBytes?_eq (by omega) ⟨hweight, by omega⟩ hsign.1 (show d.scale < 65536 by omega) hlt
  have hzeros : ws.length - (ws ++ fs).length = 0 := Nat.sub_eq_zero_of_le (by simp)
  rw [decode?_eq hpacket hsign.2.1]
  simp only [← hws, hsign.2.2]
  rw [List.take_left, List.drop_left, hzeros]
  exact parts_eq d hd hscale hS hnear hplace htotal

/-- **A decimal other than zero is read back** with its sign and its scale. -/
theorem decode?_encode_of_ne_zero (d : Decimal) (hd : d.mantissa ≠ 0) : decode? (encode d) = some d := by
  have hscale := d.scale_le
  unfold encode
  rw [if_neg hd]
  simp only [Nat.pow_eq]
  generalize hcount : (d.scale + 3) / 4 = count
  generalize hall : groups (d.mantissa * 10 ^ (4 * count - d.scale)) = all
  have hspell : ofGroups all = d.mantissa * 10 ^ (4 * count - d.scale) := hall ▸ ofGroups_groups _
  have hlt : ∀ g ∈ all, g < 10000 := fun g hg => lt_of_mem_groups (hall ▸ hg)
  have hlength : all.length ≤ 8 := by
    rw [← hall]
    refine length_groups_le ?_
    calc d.mantissa * 10 ^ (4 * count - d.scale) ≤ d.mantissa * 10 ^ 3 :=
          Nat.mul_le_mul_left _ (Nat.pow_le_pow_right (by decide) (by omega))
      _ < 2 ^ 96 * 10 ^ 3 := Nat.mul_lt_mul_of_pos_right d.mantissa_lt (by decide)
      _ < 10000 ^ 8 := by decide
  by_cases hweight : (0 : Int) ≤ all.length - count - 1
  · -- there are groups before the point, and those behind it end with their last digit
    have hwhole : ((all.length : Int) - count - 1 + 1).toNat = all.length - count := by omega
    obtain ⟨n, hzeros⟩ := exists_eq_dropTrailingZeros_append (all.drop (all.length - count))
    rw [if_pos hweight, hwhole]
    generalize dropTrailingZeros (all.drop (all.length - count)) = fs at *
    have hws : (all.take (all.length - count)).length = all.length - count :=
      List.length_take_of_le (Nat.sub_le _ _)
    have hfs : (fs ++ List.replicate n 0).length = count := by
      rw [← hzeros, List.length_drop]
      omega
    have hkept : ∀ g ∈ all.take (all.length - count) ++ fs, g < 10000 := by
      intro g hg
      rcases List.mem_append.mp hg with hg | hg
      · exact hlt g (List.mem_of_mem_take hg)
      · exact hlt g (List.mem_of_mem_drop (hzeros ▸ List.mem_append_left _ hg))
    have hcounted : (all.take (all.length - count) ++ fs).length ≤ 8 := by
      rw [List.length_append] at hfs ⊢
      omega
    have hplaces : 10 ^ (4 * count) = 10000 ^ (all.drop (all.length - count)).length := by
      rw [hzeros, hfs, pow_mul]
      norm_num
    refine @decode?_packet d hd (4 * count) n _ fs _ (hws.trans hwhole.symm) hkept hcounted (by omega) (by omega)
      (by omega) (by omega) (by omega) ?_
    rw [← hzeros, ← hspell, hplaces, ← ofGroups_append, List.take_append_drop]
  · -- all groups are behind the point
    have hwhole : (0 : Nat) = ((all.length : Int) - count - 1 + 1).toNat := by omega
    rw [if_neg hweight]
    refine @decode?_packet d hd (4 * count) 0 [] all _ hwhole hlt hlength (by omega) (by omega) (by omega)
      (by omega) ?_ ?_
    · rw [List.replicate_zero, List.append_nil]
      omega
    · rw [List.replicate_zero, List.append_nil, ofGroups_nil, Nat.zero_mul, Nat.zero_add, hspell]

/-- **Every decimal is read back as an equal one.** -/
theorem exists_decode?_encode (d : Decimal) : ∃ e, decode? (encode d) = some e ∧ d.same e = true := by
  by_cases hd : d.mantissa = 0
  · refine ⟨⟨false, 0, 0, by decide, by decide⟩, ?_, ?_⟩
    · rw [encode, if_pos hd]
      decide +kernel
    · simp [Decimal.same, Decimal.signed, hd]
  · exact ⟨d, decode?_encode_of_ne_zero d hd, d.same_self⟩

end TableGateway.Wire.Numeric
