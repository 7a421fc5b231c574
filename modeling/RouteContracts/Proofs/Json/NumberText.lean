import Mathlib.Data.Nat.Cast.Field
import RouteContracts.Proofs.Decimal.Rounding
import RouteContracts.Proofs.Text.Characters
import RouteContracts.Request.Scalar
import RouteContracts.Schema.Coercion

/-! # Numbers written in URLs
A number is written into a URL without the fraction that an integer-valued double has in JSON, and is read from
there as a text: as an integer where it fits, else as the nearest double. The value is the same again, though
an integer-valued double becomes an integer.

* `Decimal.Written`: the texts of decimals that have a point or an exponent, and what they denote.
* `readNumber?_floatText`: **every double but zero is read back from its JSON text.**
* `readNumber?_urlText`: **every number is read back by value**, unless it is too large to be a signed
  integer. -/

namespace RouteContracts

/-! ## Digits -/

namespace Json.Number

theorem natOfDigits_eq_ofDigitChars (ds : List Char) : natOfDigits ds = Nat.ofDigitChars 10 ds 0 := by
  rw [natOfDigits, Nat.ofDigitChars_eq_foldl]
  congr 1
  funext n c
  rw [Nat.mul_comm, digitValue]

@[simp] theorem natOfDigits_toDigits (n : Nat) : natOfDigits (Nat.toDigits 10 n) = n := by
  rw [natOfDigits_eq_ofDigitChars, Nat.ofDigitChars_ten_toDigits]

/-- `natOfDigits (ds ++ zeros k) = 10 ^ k * natOfDigits ds`. -/
theorem natOfDigits_append_zeros (ds : List Char) (k : Nat) :
    natOfDigits (ds ++ zeros k) = 10 ^ k * natOfDigits ds := by
  rw [natOfDigits_eq_ofDigitChars, natOfDigits_eq_ofDigitChars, Nat.ofDigitChars_append, zeros,
    Nat.ofDigitChars_replicate_zero]

/-- `natOfDigits (zeros k ++ ds) = natOfDigits ds`: zeros in front do not count. -/
theorem natOfDigits_zeros_append (k : Nat) (ds : List Char) : natOfDigits (zeros k ++ ds) = natOfDigits ds := by
  rw [natOfDigits_eq_ofDigitChars, natOfDigits_eq_ofDigitChars, Nat.ofDigitChars_append, zeros,
    Nat.ofDigitChars_replicate_zero, Nat.mul_zero]

theorem isDigit_of_mem_toDigits {n : Nat} {c : Char} (h : c ∈ Nat.toDigits 10 n) : c.isDigit = true :=
  Nat.isDigit_of_mem_toDigits (by decide) (by decide) h

theorem isDigit_of_mem_zeros {k : Nat} {c : Char} (h : c ∈ zeros k) : c.isDigit = true := by
  rw [List.eq_of_mem_replicate h]
  decide

/-- `spanDigits` reads digits up to a character that is none. -/
theorem spanDigits_append {ds rest : List Char} (hds : ∀ c ∈ ds, c.isDigit = true)
    (hrest : ∀ c ∈ rest.head?, c.isDigit = false) : spanDigits (ds ++ rest) = (ds, rest) := by
  have hstop : rest.takeWhile Char.isDigit = [] ∧ rest.dropWhile Char.isDigit = rest := by
    cases rest with
    | nil => exact ⟨rfl, rfl⟩
    | cons c rest =>
      have hc : c.isDigit = false := hrest c rfl
      simp [hc]
  rw [spanDigits, List.takeWhile_append_of_pos hds, List.dropWhile_append_of_pos hds, hstop.1, hstop.2,
    List.append_nil]

end Json.Number

open Json.Number

/-! ## Signs -/

/-- `s` with a minus sign in front, if `negative`. -/
def signed (negative : Bool) (s : List Char) : List Char := if negative then '-' :: s else s

theorem not_sign_of_isDigit {c : Char} (hc : c.isDigit = true) : c ≠ '-' ∧ c ≠ '+' := by
  constructor
  · rintro rfl
    exact absurd hc (by decide)
  · rintro rfl
    exact absurd hc (by decide)

/-- `readInt64?` of a sign and a digit with what follows: an integer where all are digits and it fits in 64 bits, and
`none` otherwise. -/
theorem readInt64?_signed (negative : Bool) {c : Char} (hc : c.isDigit = true) (s : List Char) :
    readInt64? (signed negative (c :: s)) =
      if (c :: s).all Char.isDigit then
        let i : Int := if negative then -(natOfDigits (c :: s) : Int) else natOfDigits (c :: s)
        if -9223372036854775808 ≤ i ∧ i ≤ 9223372036854775807 then some i else none
      else none := by
  obtain ⟨hminus, hplus⟩ := not_sign_of_isDigit hc
  cases negative with
  | true =>
    simp only [signed, readInt64?, if_true]
    by_cases hall : (c :: s).all Char.isDigit = true <;> simp [hall]
  | false =>
    simp only [signed, readInt64?, Bool.false_eq_true, if_false]
    split
    · next h => exact absurd (List.cons.inj h).1 hminus
    · next h => exact absurd (List.cons.inj h).1 hplus
    · by_cases hall : (c :: s).all Char.isDigit = true <;> simp [hall]

/-- What is read after the sign of a double. -/
def readMagnitude? (negative : Bool) (s : List Char) : Option Binary64 := do
  let (whole, s) := spanDigits s
  let (fraction, s) := match s with
    | '.' :: r => spanDigits r
    | _ => ([], s)
  if whole.isEmpty && fraction.isEmpty then none
  else
    let exponent ← readExponent? s
    Binary64.ofRank? negative (Decimal.toRank ⟨natOfDigits (whole ++ fraction), exponent - fraction.length⟩)

theorem readDouble?_signed (negative : Bool) {c : Char} (hc : c.isDigit = true) (s : List Char) :
    readDouble? (signed negative (c :: s)) = readMagnitude? negative (c :: s) := by
  obtain ⟨hminus, hplus⟩ := not_sign_of_isDigit hc
  cases negative with
  | true => rfl
  | false =>
    simp only [signed, readDouble?, Bool.false_eq_true, if_false]
    split
    · next h => exact absurd (List.cons.inj h).1 hminus
    · next h => exact absurd (List.cons.inj h).1 hplus
    · rfl

/-! ## Decimals -/

namespace Decimal

/-- **The texts of decimals** that have a point or an exponent, without a sign, and what they denote. -/
inductive Written : List Char → Decimal → Prop where
  /-- Digits around a point. -/
  | point {c : Char} {whole fraction : List Char} (hwhole : ∀ d ∈ c :: whole, d.isDigit = true)
      (hfraction : ∀ d ∈ fraction, d.isDigit = true) :
      Written (c :: whole ++ '.' :: fraction) ⟨natOfDigits (c :: whole ++ fraction), 0 - (fraction.length : Int)⟩
  /-- One digit, others after a point if there are any, and an exponent. -/
  | exponent {c : Char} {fraction digits : List Char} (negative : Bool) (hc : c.isDigit = true)
      (hfraction : ∀ d ∈ fraction, d.isDigit = true) (hdigits : ∀ d ∈ digits, d.isDigit = true)
      (hne : digits ≠ []) :
      Written ((if fraction = [] then [c] else c :: '.' :: fraction) ++ 'e' :: (if negative then '-' else '+') :: digits)
        ⟨natOfDigits (c :: fraction),
          (if negative then -(natOfDigits digits : Int) else natOfDigits digits) - fraction.length⟩

/-- A `Written` text begins with a digit, is not made of digits only, and has no blanks. -/
theorem Written.shape {s : List Char} {d : Decimal} (h : Written s d) :
    ∃ c rest, s = c :: rest ∧ c.isDigit = true ∧ s.all Char.isDigit = false ∧
      ∀ e ∈ s, e.isDigit = true ∨ e ∈ ['.', 'e', '-', '+'] := by
  cases h with
  | @point c whole fraction hwhole hfraction =>
    refine ⟨c, whole ++ '.' :: fraction, rfl, hwhole c (List.mem_cons_self ..), ?_, fun e he => ?_⟩
    · rw [List.all_append, List.all_cons]
      simp [show Char.isDigit '.' = false by decide]
    · rcases List.mem_append.mp he with he | he
      · exact .inl (hwhole e he)
      · rcases List.mem_cons.mp he with rfl | he
        · exact .inr (by decide)
        · exact .inl (hfraction e he)
  | @exponent c fraction digits negative hc hfraction hdigits hne =>
    have hmantissa : ∃ rest, (if fraction = [] then [c] else c :: '.' :: fraction) = c :: rest ∧
        ∀ e ∈ c :: rest, e.isDigit = true ∨ e ∈ ['.', 'e', '-', '+'] := by
      split
      · exact ⟨[], rfl, by simp [hc]⟩
      · refine ⟨_, rfl, fun e he => ?_⟩
        rcases List.mem_cons.mp he with rfl | he
        · exact .inl hc
        · rcases List.mem_cons.mp he with rfl | he
          · exact .inr (by decide)
          · exact .inl (hfraction e he)
    obtain ⟨rest, hrest, hchars⟩ := hmantissa
    rw [hrest]
    refine ⟨c, _, rfl, hc, ?_, fun e he => ?_⟩
    · rw [List.all_append, List.all_cons (a := 'e')]
      simp [show Char.isDigit 'e' = false by decide]
    · rcases List.mem_append.mp he with he | he
      · exact hchars e he
      · rcases List.mem_cons.mp he with rfl | he
        · exact .inr (by decide)
        · rcases List.mem_cons.mp he with rfl | he
          · right
            cases negative <;> decide
          · exact .inl (hdigits e he)

/-- `readExponent?` reads `e`, a sign and digits. -/
theorem readExponent?_signed (negative : Bool) {digits : List Char} (hdigits : ∀ d ∈ digits, d.isDigit = true)
    (hne : digits ≠ []) :
    readExponent? ('e' :: (if negative then '-' else '+') :: digits) =
      some (if negative then -(natOfDigits digits : Int) else natOfDigits digits) := by
  have hempty : digits.isEmpty = false := List.isEmpty_eq_false_iff.mpr hne
  have hall : digits.all Char.isDigit = true := List.all_eq_true.mpr hdigits
  cases negative <;> simp [readExponent?, hempty, hall]

/-- **`readMagnitude?` of a `Written` text is `Binary64.ofRank?` of `d.toRank`**, the nearest double. -/
theorem Written.readMagnitude? {s : List Char} {d : Decimal} (h : Written s d) (negative : Bool) :
    readMagnitude? negative s = Binary64.ofRank? negative d.toRank := by
  cases h with
  | @point c whole fraction hwhole hfraction =>
    have hspan : spanDigits (c :: whole ++ '.' :: fraction) = (c :: whole, '.' :: fraction) :=
      spanDigits_append hwhole (by rintro d ⟨⟩; decide)
    have hfspan : spanDigits fraction = (fraction, []) := by
      have hall := spanDigits_append hfraction (show ∀ c ∈ ([] : List Char).head?, c.isDigit = false by simp)
      rwa [List.append_nil] at hall
    have hzero : readExponent? [] = some 0 := rfl
    rw [RouteContracts.readMagnitude?, hspan]
    simp [hfspan, hzero]
  | @exponent c fraction digits negative' hc hfraction hdigits hne =>
    have hexp := readExponent?_signed negative' hdigits hne
    -- the digits end in front of the exponent, whether or not there is a fraction
    generalize hrest : 'e' :: (if negative' = true then '-' else '+') :: digits = rest at hexp ⊢
    have hhead : ∀ d ∈ rest.head?, d.isDigit = false := by
      subst hrest
      rintro d ⟨⟩
      decide
    by_cases hf : fraction = []
    · have hspan : spanDigits ([c] ++ rest) = ([c], rest) :=
        spanDigits_append (by simpa using hc) hhead
      rw [if_pos hf, RouteContracts.readMagnitude?, hspan]
      subst hrest hf
      simp [hexp]
    · have hspan : spanDigits ([c] ++ '.' :: (fraction ++ rest)) = ([c], '.' :: (fraction ++ rest)) :=
        spanDigits_append (by simpa using hc) (by rintro d ⟨⟩; decide)
      have hfspan : spanDigits (fraction ++ rest) = (fraction, rest) := spanDigits_append hfraction hhead
      rw [if_neg hf]
      simp only [List.cons_append, List.nil_append] at hspan ⊢
      rw [RouteContracts.readMagnitude?, hspan]
      simp [hfspan, hexp]

/-! ### The layouts -/

theorem Written.of_point {whole fraction : List Char} (hne : whole ≠ []) (hwhole : ∀ d ∈ whole, d.isDigit = true)
    (hfraction : ∀ d ∈ fraction, d.isDigit = true) :
    Written (whole ++ '.' :: fraction) ⟨natOfDigits (whole ++ fraction), 0 - (fraction.length : Int)⟩ := by
  obtain ⟨c, rest, rfl⟩ := List.exists_cons_of_ne_nil hne
  exact .point hwhole hfraction

section Layouts

variable {ds : List Char} (hdigits : ∀ c ∈ ds, c.isDigit = true) (hne : ds ≠ [])
include hdigits

include hne in
/-- **The exponent is filled up with zeros**: `ds ++ zeros k ++ ".0"` is `Written` for a decimal with the rank of
`⟨natOfDigits ds, k⟩`. -/
theorem exists_written_filled (k : Nat) :
    ∃ shown, Written (ds ++ zeros k ++ ['.', '0']) shown ∧ shown.toRank = toRank ⟨natOfDigits ds, k⟩ := by
  have hwhole : ∀ c ∈ ds ++ zeros k, c.isDigit = true :=
    List.forall_mem_append.mpr ⟨hdigits, fun _ hc => isDigit_of_mem_zeros hc⟩
  refine ⟨_, .of_point (by simp [hne]) hwhole fun c hc => isDigit_of_mem_zeros (k := 1) hc, ?_⟩
  have hshape : ds ++ zeros k ++ ['0'] = ds ++ zeros (k + 1) := by simp [zeros, List.replicate_succ']
  rw [hshape, natOfDigits_append_zeros, toRank_mul_pow]
  congr 2
  rw [List.length_singleton]
  push_cast
  omega

include hne in
/-- **The point stands among the digits**: `ds.take k ++ '.' :: ds.drop k` is `Written` for `⟨natOfDigits ds, k -
ds.length⟩`. -/
theorem written_among {k : Nat} (hk : 0 < k) :
    Written (ds.take k ++ '.' :: ds.drop k) ⟨natOfDigits ds, 0 - ((ds.length - k : Nat) : Int)⟩ := by
  have htake : ds.take k ≠ [] := by
    rw [Ne, List.take_eq_nil_iff, not_or]
    exact ⟨hk.ne', hne⟩
  have hfraction : ∀ c ∈ ds.drop k, c.isDigit = true := fun c hc => hdigits c (List.mem_of_mem_drop hc)
  have hwritten := Written.of_point htake (fun c hc => hdigits c (List.mem_of_mem_take hc)) hfraction
  rwa [List.take_append_drop, List.length_drop] at hwritten

/-- **Zeros stand between the point and the digits**: `0.` with `k` zeros and `ds` is `Written` for `⟨natOfDigits ds,
-(k + ds.length)⟩`. -/
theorem written_behind (k : Nat) :
    Written ('0' :: '.' :: zeros k ++ ds) ⟨natOfDigits ds, 0 - ((k + ds.length : Nat) : Int)⟩ := by
  have hfraction : ∀ c ∈ zeros k ++ ds, c.isDigit = true :=
    List.forall_mem_append.mpr ⟨fun _ hc => isDigit_of_mem_zeros hc, hdigits⟩
  have hwritten := Written.of_point (List.cons_ne_nil '0' []) (fun c hc => isDigit_of_mem_zeros (k := 1) hc) hfraction
  have hshape : ['0'] ++ (zeros k ++ ds) = zeros (k + 1) ++ ds := by simp [zeros, List.replicate_succ]
  rw [hshape, natOfDigits_zeros_append, List.length_append, zeros, List.length_replicate] at hwritten
  exact hwritten

end Layouts

/-- **The exponent is written out**, behind a point after the first digit: the text is `Written` for `⟨natOfDigits (c ::
fraction), lead - fraction.length⟩`. -/
theorem written_scientific {c : Char} {fraction : List Char} (h : ∀ d ∈ c :: fraction, d.isDigit = true) (lead : Int) :
    Written ((if fraction = [] then [c] else c :: '.' :: fraction) ++
      'e' :: (if lead < 0 then '-' else '+') :: Nat.toDigits 10 lead.natAbs)
      ⟨natOfDigits (c :: fraction), lead - fraction.length⟩ := by
  have hwritten := Written.exponent (decide (lead < 0)) (h c (List.mem_cons_self ..))
    (fun d hd => h d (List.mem_cons_of_mem _ hd))
    (fun d hd => isDigit_of_mem_toDigits (n := lead.natAbs) hd) Nat.toDigits_ne_nil
  have hexponent : (if decide (lead < 0) then -(natOfDigits (Nat.toDigits 10 lead.natAbs) : Int)
      else natOfDigits (Nat.toDigits 10 lead.natAbs)) = lead := by
    simp only [natOfDigits_toDigits, decide_eq_true_eq]
    split <;> omega
  have hsign : (if decide (lead < 0) = true then '-' else '+') = if lead < 0 then '-' else '+' := by simp
  rwa [hexponent, hsign] at hwritten

/-- **`decimalText d` is `Written`** for a decimal with the rank `d.toRank`. It is `d` itself, unless the exponent is
filled up with zeros. -/
theorem decimalText_written {d : Decimal} (hd : d.digits ≠ 0) :
    ∃ shown, Written (decimalText d) shown ∧ shown.toRank = d.toRank := by
  obtain ⟨n, e⟩ := d
  have hdigits : ∀ c ∈ Nat.toDigits 10 n, c.isDigit = true := fun c hc => isDigit_of_mem_toDigits hc
  have hvalue : natOfDigits (Nat.toDigits 10 n) = n := natOfDigits_toDigits n
  have hne : Nat.toDigits 10 n ≠ [] := Nat.toDigits_ne_nil
  simp only [decimalText]
  generalize Nat.toDigits 10 n = ds at hdigits hvalue hne
  have hlength : 0 < ds.length := List.length_pos_iff.mpr hne
  split
  · split
    · next hlead he =>
      -- zeros behind the digits
      obtain ⟨shown, hwritten, hrank⟩ := exists_written_filled hdigits hne e.toNat
      exact ⟨shown, hwritten, by rw [hrank, hvalue, Int.toNat_of_nonneg he]⟩
    · split
      · next hlead he hpos =>
        -- a point among the digits
        refine ⟨_, written_among hdigits hne (by omega), ?_⟩
        rw [hvalue]
        congr 2
        omega
      · next hlead he hneg =>
        -- zeros in front of the digits
        refine ⟨_, written_behind hdigits _, ?_⟩
        rw [hvalue]
        congr 2
        omega
  · obtain ⟨c, fraction, rfl⟩ := List.exists_cons_of_ne_nil hne
    -- one digit in front of the point, and an exponent behind
    have hwritten := written_scientific hdigits (e + (c :: fraction).length - 1)
    have hexponent : e + ((c :: fraction).length : Int) - 1 - fraction.length = e := by
      rw [List.length_cons]
      push_cast
      omega
    rw [hvalue, hexponent] at hwritten
    refine ⟨⟨n, e⟩, ?_, rfl⟩
    cases fraction with
    | nil => exact hwritten
    | cons d fraction => exact hwritten

end Decimal

/-! ## Blanks -/

theorem isBlank_of_number_char {c : Char} (h : c.isDigit = true ∨ c ∈ ['.', 'e', '-', '+']) :
    Text.isBlank c = false := by
  rcases h with h | h
  · obtain ⟨hlow, hhigh⟩ := Text.isDigit_toNat h
    simp only [Text.isBlank, Text.Ranges.has, Text.blankRanges, List.any_cons, List.any_nil, Bool.or_false,
      Bool.or_eq_false_iff, Bool.and_eq_false_iff, decide_eq_false_iff_not]
    omega
  · simp only [List.mem_cons, List.not_mem_nil, or_false] at h
    rcases h with rfl | rfl | rfl | rfl <;> decide

/-- `Text.trimChars s = s` for a text without blanks. -/
theorem trimChars_of_forall {s : List Char} (h : ∀ c ∈ s, Text.isBlank c = false) : Text.trimChars s = s := by
  have htrim : ∀ t : List Char, (∀ c ∈ t, Text.isBlank c = false) → Text.trimStart t = t := by
    intro t ht
    cases t with
    | nil => rfl
    | cons c t =>
      have hc : Text.isBlank c = false := ht c (List.mem_cons_self ..)
      simp [Text.trimStart, hc]
  rw [Text.trimChars, htrim s h, htrim s.reverse fun c hc => h c (List.mem_reverse.mp hc), List.reverse_reverse]

/-- `Text.trimChars` leaves a signed number as it is. -/
theorem trimChars_signed {negative : Bool} {s : List Char}
    (h : ∀ c ∈ s, c.isDigit = true ∨ c ∈ ['.', 'e', '-', '+']) :
    Text.trimChars (signed negative s) = signed negative s := by
  refine trimChars_of_forall fun c hc => isBlank_of_number_char ?_
  cases negative with
  | false => exact h c hc
  | true =>
    rcases List.mem_cons.mp hc with rfl | hc
    · exact .inr (by decide)
    · exact h c hc

/-! ## Numbers -/

/-- **`readNumber? (floatText x) = some (.float x)`** for every double `x` but zero. -/
theorem readNumber?_floatText {x : Binary64} (hx : x.rank ≠ 0) : readNumber? (floatText x) = some (.float x) := by
  have hrank : (Decimal.shortest x.rank).toRank = x.rank := Decimal.toRank_shortest x.rank_lt
  have hdigits : (Decimal.shortest x.rank).digits ≠ 0 := by
    intro h
    rw [Decimal.toRank] at hrank
    simp only [h, if_true] at hrank
    exact hx hrank.symm
  obtain ⟨shown, hwritten, hshown⟩ := Decimal.decimalText_written hdigits
  have htext : (floatText x).toList = signed x.negative (decimalText (Decimal.shortest x.rank)) := by
    rw [floatText, if_neg hx, String.toList_ofList, signed]
  obtain ⟨c, rest, hbody, hc, hall, hchars⟩ := hwritten.shape
  have hdouble := hwritten.readMagnitude? x.negative
  rw [hbody] at hdouble hall
  rw [readNumber?, htext, trimChars_signed hchars, hbody, readInt64?_signed _ hc, hall,
    readDouble?_signed _ hc, hdouble, hshown, hrank, Binary64.ofRank?, dif_pos x.rank_lt]
  rfl

/-- `readMagnitude?` of digits alone is the double that is nearest to `natOfDigits ds`. -/
theorem readMagnitude?_digits (negative : Bool) {ds : List Char} (hds : ∀ c ∈ ds, c.isDigit = true) (hne : ds ≠ []) :
    readMagnitude? negative ds = Binary64.ofRank? negative (Decimal.toRank ⟨natOfDigits ds, 0⟩) := by
  have hspan : spanDigits ds = (ds, []) := by
    have hall := spanDigits_append hds (show ∀ c ∈ ([] : List Char).head?, c.isDigit = false by simp)
    rwa [List.append_nil] at hall
  have hempty : ds.isEmpty = false := List.isEmpty_eq_false_iff.mpr hne
  have hzero : readExponent? [] = some 0 := rfl
  rw [readMagnitude?, hspan]
  simp [hempty, hzero]

/-- **`readNumber? (intText i)`** is the integer where `i` fits in 64 bits with a sign, and else the double nearest to
it. -/
theorem readNumber?_intText_eq (i : Int) :
    readNumber? (intText i) =
      if -9223372036854775808 ≤ i ∧ i ≤ 9223372036854775807 then Json.Number.ofInt? i
      else (Binary64.ofRank? (decide (i < 0)) (Decimal.toRank ⟨i.natAbs, 0⟩)).map .float := by
  have hdigits : ∀ c ∈ Nat.toDigits 10 i.natAbs, c.isDigit = true := fun c hc => isDigit_of_mem_toDigits hc
  have htext : (intText i).toList = signed (decide (i < 0)) (Nat.toDigits 10 i.natAbs) := by
    by_cases hi : i < 0
    · simp [intText, hi, natText, signed]
    · simp [intText, hi, natText, signed]
  have htrim : Text.trimChars (signed (decide (i < 0)) (Nat.toDigits 10 i.natAbs)) =
      signed (decide (i < 0)) (Nat.toDigits 10 i.natAbs) := trimChars_signed fun c hc => .inl (hdigits c hc)
  have hall : (Nat.toDigits 10 i.natAbs).all Char.isDigit = true := List.all_eq_true.mpr hdigits
  have hvalue := natOfDigits_toDigits i.natAbs
  have hdouble := readMagnitude?_digits (decide (i < 0)) hdigits Nat.toDigits_ne_nil
  obtain ⟨c, rest, hshape⟩ := List.exists_cons_of_ne_nil (Nat.toDigits_ne_nil (n := i.natAbs) (b := 10))
  rw [hvalue] at hdouble
  rw [hshape] at htext htrim hall hvalue hdigits hdouble
  have hint : readInt64? (signed (decide (i < 0)) (c :: rest)) =
      if -9223372036854775808 ≤ i ∧ i ≤ 9223372036854775807 then some i else none := by
    -- the digits are those of the absolute value, so the sign gives the number back
    have hi : (if decide (i < 0) = true then -(i.natAbs : Int) else i.natAbs) = i := by
      simp only [decide_eq_true_eq]
      split <;> omega
    rw [readInt64?_signed _ (hdigits c (List.mem_cons_self ..)), hall, hvalue]
    simp only [hi, if_true]
  rw [readNumber?, htext, htrim, hint, readDouble?_signed _ (hdigits c (List.mem_cons_self ..)), hdouble]
  by_cases hfits : -9223372036854775808 ≤ i ∧ i ≤ 9223372036854775807
  · simp only [if_pos hfits]
  · simp only [if_neg hfits]

/-- **`readNumber? (intText i) = Json.Number.ofInt? i`** for every `i` that fits in 64 bits with a sign. -/
theorem readNumber?_intText {i : Int} (hlow : -9223372036854775808 ≤ i) (hhigh : i ≤ 9223372036854775807) :
    readNumber? (intText i) = Json.Number.ofInt? i := by
  rw [readNumber?_intText_eq, if_pos ⟨hlow, hhigh⟩]

/-! ## Values -/

/-- The value of a double: its `magnitude` with its sign. -/
def Binary64.value (x : Binary64) : ℚ := if x.negative then -magnitude x.rank else magnitude x.rank

/-- The value of a number. -/
def Json.Number.value : Json.Number → ℚ
  | .int i _ => i
  | .float x => x.value

/-- A number is a double, or an integer that is not too large for a signed one. -/
def Json.Number.IsSigned : Json.Number → Prop
  | .int i _ => i ≤ 9223372036854775807
  | .float _ => True

/-- `x.value = i` where `x.toInt? = some i`. -/
theorem Binary64.value_of_toInt? {x : Binary64} {i : Int} (h : x.toInt? = some i) : x.value = i := by
  unfold toInt? at h
  split at h
  · next hinteger =>
    have hmod : numerator x.rank % denominator x.rank = 0 := by simpa [isInteger] using hinteger
    have hmagnitude : magnitude x.rank = (numerator x.rank / denominator x.rank : Nat) := by
      rw [magnitude_eq_div, Nat.cast_div (Nat.dvd_of_mod_eq_zero hmod)
        (by exact_mod_cast (denominator_pos x.rank).ne')]
    rw [value, hmagnitude]
    generalize numerator x.rank / denominator x.rank = n at h
    obtain rfl := Option.some.inj h
    split <;> simp
  · cases h

theorem Json.Number.value_of_ofInt? {i : Int} (hlow : minInteger ≤ i) (hhigh : i ≤ maxInteger) :
    ∃ m, ofInt? i = some m ∧ m.value = i :=
  ⟨.int i ⟨hlow, hhigh⟩, dif_pos ⟨hlow, hhigh⟩, rfl⟩

/-- **Every number is read back by value**: `readNumber? n.urlText` is a number with `n.value`, unless `n` is an integer
that is too large for a signed one. -/
theorem readNumber?_urlText {n : Json.Number} (hn : n.IsSigned) :
    ∃ m, readNumber? n.urlText = some m ∧ m.value = n.value := by
  cases n with
  | int i hrange =>
    obtain ⟨m, hm, hvalue⟩ := Json.Number.value_of_ofInt? hrange.1 hrange.2
    exact ⟨m, (readNumber?_intText hrange.1 hn).trans hm, hvalue⟩
  | float x =>
    by_cases hwhole : ∃ i, x.toInt? = some i ∧ i.natAbs < wholeLimit
    · obtain ⟨i, hi, hlimit⟩ := hwhole
      rw [wholeLimit] at hlimit
      obtain ⟨m, hm, hvalue⟩ := Json.Number.value_of_ofInt? (i := i)
        (by rw [Json.minInteger]; omega) (by rw [Json.maxInteger]; omega)
      refine ⟨m, ?_, hvalue.trans (Binary64.value_of_toInt? hi).symm⟩
      have htext : (Json.Number.float x).urlText = intText i := by
        simp only [urlText, hi]
        rw [if_pos (by rw [wholeLimit]; omega)]
      rw [htext, readNumber?_intText (by omega) (by omega), hm]
    · have htext : (Json.Number.float x).urlText = floatText x := by
        simp only [urlText]
        split
        · next i hi =>
          rw [if_neg fun hlimit => hwhole ⟨i, hi, hlimit⟩]
          rfl
        · rfl
      -- Zero is written as an integer.
      have hx : x.rank ≠ 0 := by
        intro h
        have hzero : x.toInt? = some 0 := by
          simp [Binary64.toInt?, Binary64.isInteger, Binary64.numerator, Binary64.significand, h]
        exact hwhole ⟨0, hzero, by decide⟩
      exact ⟨.float x, htext ▸ readNumber?_floatText hx, rfl⟩

end RouteContracts
