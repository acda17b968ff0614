import TextMemory.Json.Reader
import TextMemory.Proofs.Decimal

/-!
# Numbers read back

A number in natural form is read as the number itself. The digits written, wherever the point or the
power of ten stands among them, are those of a decimal of the same value, and equal values have the
same nearest number. The text behind a number only has to begin with no digit, point or power.
-/
namespace TextMemory.Json

variable {ds whole places rest : List Char}

def numeral (ds : List Char) : Nat := ofDigits (ds.map digitValue)

theorem foldl_digits (init : Nat) (ds : List Nat) :
    ds.foldl (fun n d => 10 * n + d) init = init * 10 ^ ds.length + ofDigits ds := by
  induction ds generalizing init with
  | nil => simp [ofDigits]
  | cons d ds ih =>
    simp only [ofDigits, List.foldl_cons, List.length_cons]
    rw [ih, ih (10 * 0 + d)]
    ring

theorem numeral_append (ds es : List Char) :
    numeral (ds ++ es) = numeral ds * 10 ^ es.length + numeral es := by
  rw [numeral, List.map_append, ofDigits, List.foldl_append, foldl_digits, List.length_map]
  rfl

theorem numeral_zeros (n : Nat) : numeral (zeros n) = 0 := by
  induction n with
  | zero => rfl
  | succ n ih =>
    rw [zeros, List.replicate_succ', numeral_append, ← zeros, ih]
    rfl

theorem numeral_decimalChars (n : Nat) : numeral (decimalChars n) = n := by
  rw [numeral, ofDigits, List.foldl_map]
  exact Nat.ofDigitChars_ten_toDigits

theorem isDigit_of_mem_decimalChars {n : Nat} {c : Char} (hc : c ∈ decimalChars n) : c.isDigit :=
  Nat.isDigit_of_mem_toDigits (by decide) (by decide) hc

theorem isDigit_of_mem_zeros {n : Nat} {c : Char} (hc : c ∈ zeros n) : c.isDigit := by
  rw [List.eq_of_mem_replicate hc]
  rfl

theorem decimalChars_ne_nil (n : Nat) : decimalChars n ≠ [] := Nat.toDigits_ne_nil

theorem decimalChars_first {n : Nat} (hn : 0 < n) : ∃ c cs, decimalChars n = c :: cs ∧ c ≠ '0' := by
  induction n using Nat.strong_induction_on with
  | _ n ih =>
    rw [decimalChars]
    rw [Nat.toDigits_eq_if (by decide)]
    split
    · refine ⟨n.digitChar, [], rfl, ?_⟩
      rw [ne_eq, Nat.digitChar_eq_zero]
      omega
    · obtain ⟨c, cs, htext, hc⟩ := ih (n / 10) (by omega) (by omega)
      rw [decimalChars] at htext
      exact ⟨c, cs ++ [(n % 10).digitChar], by rw [htext]; rfl, hc⟩

structure IsWhole (whole : List Char) : Prop where
  digits : ∀ c ∈ whole, c.isDigit
  first : whole = ['0'] ∨ ∃ c cs, whole = c :: cs ∧ c ≠ '0'

theorem isWhole_zero : IsWhole ['0'] := ⟨fun _ hc => isDigit_of_mem_zeros (n := 1) hc, .inl rfl⟩

theorem isWhole_decimalChars (n : Nat) : IsWhole (decimalChars n) := by
  refine ⟨fun c hc => isDigit_of_mem_decimalChars hc, ?_⟩
  rcases Nat.eq_zero_or_pos n with rfl | hn
  · exact .inl rfl
  · exact .inr (decimalChars_first hn)

def NoDigit (rest : List Char) : Prop := ∀ c ∈ rest.head?, c.isDigit = false

structure Ends (rest : List Char) : Prop where
  noDigit : NoDigit rest
  noPoint : ∀ c ∈ rest.head?, c ≠ '.'
  noPower : ∀ c ∈ rest.head?, c ≠ 'e' ∧ c ≠ 'E'

theorem ends_nil : Ends [] := ⟨by simp [NoDigit], by simp, by simp⟩

theorem spanDigits_append (hds : ∀ c ∈ ds, c.isDigit) (hrest : NoDigit rest) :
    spanDigits (ds ++ rest) = (ds, rest) := by
  have hstop : rest.takeWhile Char.isDigit = [] ∧ rest.dropWhile Char.isDigit = rest := by
    cases rest with
    | nil => exact ⟨rfl, rfl⟩
    | cons c rest =>
      have hc := hrest c rfl
      simp [hc]
  rw [spanDigits, List.takeWhile_append_of_pos hds, List.dropWhile_append_of_pos hds,
    hstop.1, hstop.2,
    List.append_nil]

theorem fraction_point (hne : places ≠ []) (hplaces : ∀ c ∈ places, c.isDigit)
    (hrest : NoDigit rest) : fraction ('.' :: (places ++ rest)) = (places, rest) := by
  simp only [fraction, spanDigits_append hplaces hrest]
  split
  · rename_i h
    cases h
    exact absurd rfl hne
  · rfl

theorem fraction_none (hrest : ∀ c ∈ rest.head?, c ≠ '.') : fraction rest = ([], rest) := by
  unfold fraction
  split
  · exact absurd rfl (hrest '.' rfl)
  · rfl

theorem power_none (hrest : ∀ c ∈ rest.head?, c ≠ 'e' ∧ c ≠ 'E') : power rest = (none, rest) := by
  unfold power
  cases rest with
  | nil => rfl
  | cons c rest =>
    have hc := hrest c rfl
    simp [hc.1, hc.2]

theorem power_signed (e : Int) (hne : ds ≠ []) (hds : ∀ c ∈ ds, c.isDigit)
    (he : numeral ds = e.natAbs) (hrest : NoDigit rest) :
    power ('e' :: (if e < 0 then '-' else '+') :: (ds ++ rest)) = (some e, rest) := by
  have hvalue : ofDigits (ds.map digitValue) = e.natAbs := he
  cases ds with
  | nil => exact absurd rfl hne
  | cons d ds =>
    by_cases hneg : e < 0
    · simp only [power, hneg, if_true, spanDigits_append hds hrest, hvalue]
      simp only [decide_true, Bool.true_or, if_true, Prod.mk.injEq, Option.some.injEq, and_true]
      omega
    · simp only [power, hneg, if_false, spanDigits_append hds hrest, hvalue]
      simp only [decide_true, Bool.true_or, if_true, Prod.mk.injEq, Option.some.injEq, and_true,
        Bool.false_eq_true, if_false]
      omega

theorem magnitudeOf_eq (negative : Bool) {exponent : Option Int} {after : List Char}
    (hwhole : IsWhole whole) (hrest : NoDigit rest) (hplaces : fraction rest = (places, after))
    {beyond : List Char} (hpower : power after = (exponent, beyond))
    (hfloat : places ≠ [] ∨ exponent.isSome) :
    magnitudeOf negative (whole ++ rest) =
      some (.ok (.float (Decimal.toFloat negative
        ⟨numeral (whole ++ places), exponent.getD 0 - places.length⟩), beyond)) := by
  have hne : whole.isEmpty = false := by
    rcases hwhole.first with rfl | ⟨c, cs, rfl, hc⟩ <;> rfl
  have hkind : (places.isEmpty && exponent.isNone) = false := by
    rcases hfloat with h | h
    · cases places with
      | nil => exact absurd rfl h
      | cons => rfl
    · cases exponent with
      | none => cases h
      | some => exact Bool.and_false _
  unfold magnitudeOf
  split
  rename_i found left hfound
  obtain ⟨hfound, hleft⟩ : found = whole ∧ left = rest := by
    rcases hwhole.first with rfl | ⟨c, cs, rfl, hc⟩
    · cases hfound
      exact ⟨rfl, rfl⟩
    · split at hfound
      · rename_i h
        cases h
        exact absurd rfl hc
      · rw [spanDigits_append hwhole.digits hrest] at hfound
        cases hfound
        exact ⟨rfl, rfl⟩
  subst hfound hleft
  simp only [hne, hplaces, hpower, hkind, Bool.false_eq_true, if_false]
  rfl

theorem magnitudeOf_first {negative : Bool} {cs : List Char}
    {r : Except Trouble (Number × List Char)}
    (h : magnitudeOf negative cs = some r) : ∃ c cs', cs = c :: cs' ∧ c.isDigit := by
  cases cs with
  | nil => cases h
  | cons c cs =>
    refine ⟨c, cs, rfl, ?_⟩
    by_contra hc
    -- neither a zero nor other digits are found, so there is no whole part
    have hzero : c ≠ '0' := by
      rintro rfl
      exact hc rfl
    unfold magnitudeOf at h
    split at h
    rename_i found left hfound
    split at hfound
    · rename_i hcs
      cases hcs
      exact hzero rfl
    · rw [spanDigits, List.takeWhile_cons_of_neg hc] at hfound
      cases hfound
      cases h

theorem readPlain_number {negative : Bool} {cs : List Char} {x : Number}
    (h : magnitudeOf negative cs = some (.ok (x, rest))) :
    readPlain ((if negative then ['-'] else []) ++ cs) = .ok (.number x, rest) := by
  obtain ⟨c, cs, rfl, hc⟩ := magnitudeOf_first h
  have hne : ∀ d : Char, d.isDigit = false → c ≠ d := by
    intro d hd hcd
    rw [hcd, hd] at hc
    cases hc
  have hminus := hne '-' rfl
  have hn := hne 'n' rfl
  have ht := hne 't' rfl
  have hf := hne 'f' rfl
  have hN := hne 'N' rfl
  have hI := hne 'I' rfl
  unfold readPlain
  cases negative with
  | false =>
    have hwords : (words.findSome? fun w =>
        (afterWord? w.1 (c :: cs)).map fun rest => (w.2, rest)) = none := by
      simp [words, afterWord?, hn, ht, hf, hN, hI, hminus]
    simp only [List.nil_append, Bool.false_eq_true, if_false, hwords]
    split
    · rename_i read hread
      split at hread
      · rename_i hcs
        cases hcs
        exact absurd rfl hminus
      · rw [h] at hread
        cases hread
        rfl
    · rename_i hread
      split at hread
      · rename_i hcs
        cases hcs
        exact absurd rfl hminus
      · rw [h] at hread
        cases hread
  | true =>
    have hwords : (words.findSome? fun w =>
        (afterWord? w.1 ('-' :: c :: cs)).map fun rest => (w.2, rest)) = none := by
      simp [words, afterWord?, hI]
    simp only [if_true, List.cons_append, List.nil_append, hwords, h]
    rfl

theorem noDigit_cons {c : Char} (hc : c.isDigit = false) : NoDigit (c :: rest) := by
  intro d hd
  cases hd
  exact hc

theorem magnitudeOf_point {negative : Bool} (hwhole : IsWhole whole) (hne : places ≠ [])
    (hplaces : ∀ c ∈ places, c.isDigit) (hrest : Ends rest) :
    magnitudeOf negative (whole ++ '.' :: places ++ rest) =
      some (.ok (.float (Decimal.toFloat negative
        ⟨numeral (whole ++ places), -(places.length : Int)⟩), rest)) := by
  have hread := magnitudeOf_eq negative hwhole (noDigit_cons rfl)
    (fraction_point hne hplaces hrest.noDigit) (power_none hrest.noPower) (.inl hne)
  rw [Option.getD_none, Int.zero_sub] at hread
  rw [List.append_assoc, List.cons_append]
  exact hread

theorem isDigit_of_mem_zeros_append {k n : Nat} {c : Char} (hc : c ∈ zeros k ++ decimalChars n) :
    c.isDigit := by
  rcases List.mem_append.mp hc with hc | hc
  · exact isDigit_of_mem_zeros hc
  · exact isDigit_of_mem_decimalChars hc

theorem isWhole_filled {n k : Nat} (hzero : n = 0 → k = 0) :
    IsWhole (decimalChars n ++ zeros k) := by
  rcases Nat.eq_zero_or_pos n with hn | hn
  · rw [hn, hzero hn]
    exact isWhole_zero
  · obtain ⟨c, cs, htext, hc⟩ := decimalChars_first hn
    refine ⟨?_, .inr ⟨c, cs ++ zeros k, by rw [htext]; rfl, hc⟩⟩
    intro c hc
    rcases List.mem_append.mp hc with hc | hc
    · exact isDigit_of_mem_decimalChars hc
    · exact isDigit_of_mem_zeros hc

theorem isWhole_take (n k : Nat) : IsWhole ((decimalChars n).take (k + 1)) := by
  refine ⟨fun c hc => isDigit_of_mem_decimalChars (List.mem_of_mem_take hc), ?_⟩
  rcases Nat.eq_zero_or_pos n with rfl | hn
  · exact .inl (List.take_of_length_le (by simp [decimalChars]))
  · obtain ⟨c, cs, htext, hc⟩ := decimalChars_first hn
    exact .inr ⟨c, cs.take k, by rw [htext]; rfl, hc⟩

theorem positional_split {n : Nat} {e : Int} (hzero : n = 0 → e = 0) :
    ∃ whole places, positional (decimalChars n) ((decimalChars n).length + e) =
        whole ++ '.' :: places ∧
      IsWhole whole ∧ places ≠ [] ∧ (∀ c ∈ places, c.isDigit) ∧
      Decimal.value ⟨numeral (whole ++ places), -(places.length : Int)⟩ = n * 10 ^ e := by
  have hvalue := numeral_decimalChars n
  have hne := decimalChars_ne_nil n
  have hlength := List.length_pos_of_ne_nil hne
  rw [positional]
  split
  · rename_i hpoint
    obtain ⟨k, hk⟩ : ∃ k : Nat, -(((decimalChars n).length : Int) + e) = k :=
      ⟨_, (Int.toNat_of_nonneg (by omega)).symm⟩
    rw [hk, Int.toNat_natCast]
    refine ⟨['0'], zeros k ++ decimalChars n, rfl, isWhole_zero, by simp [hne],
      fun c hc => isDigit_of_mem_zeros_append hc, ?_⟩
    have hnumeral : numeral (['0'] ++ (zeros k ++ decimalChars n)) = n := by
      rw [numeral_append, numeral_append, numeral_zeros, hvalue, show numeral ['0'] = 0 from rfl]
      omega
    have hexponent : -((zeros k ++ decimalChars n).length : Int) = e := by
      rw [List.length_append, zeros, List.length_replicate]
      omega
    rw [hnumeral, hexponent, Decimal.value]
  · rename_i hpositive
    split
    · rename_i hpoint
      obtain ⟨k, rfl⟩ := Int.eq_ofNat_of_zero_le (show 0 ≤ e by omega)
      have hk : (((decimalChars n).length : Int) + (k : Int)).toNat - (decimalChars n).length =
          k := by
        omega
      rw [hk]
      refine ⟨decimalChars n ++ zeros k, ['0'], rfl, isWhole_filled (by exact_mod_cast hzero),
        by simp, isWhole_zero.digits, ?_⟩
      have hnumeral : numeral (decimalChars n ++ zeros k ++ ['0']) = n * 10 ^ k * 10 := by
        rw [numeral_append, numeral_append, numeral_zeros, hvalue, zeros, List.length_replicate]
        rfl
      rw [hnumeral, Decimal.value, zpow_natCast]
      push_cast
      norm_num
      field_simp
    · rename_i hpoint
      obtain ⟨k, hk⟩ : ∃ k : Nat, ((decimalChars n).length : Int) + e = (k + 1 : Nat) :=
        ⟨(((decimalChars n).length : Int) + e).toNat - 1, by omega⟩
      rw [hk, Int.toNat_natCast]
      refine ⟨(decimalChars n).take (k + 1), (decimalChars n).drop (k + 1), rfl,
        isWhole_take n k, ?_,
        fun c hc => isDigit_of_mem_decimalChars (List.mem_of_mem_drop hc), ?_⟩
      · rw [ne_eq, List.drop_eq_nil_iff]
        omega
      · have hexponent : -(((decimalChars n).drop (k + 1)).length : Int) = e := by
          rw [List.length_drop]
          omega
        rw [List.take_append_drop, hvalue, hexponent, Decimal.value]

theorem magnitudeOf_scientific {n : Nat} {e : Int} {negative : Bool} (hrest : NoDigit rest) :
    magnitudeOf negative (scientific (decimalChars n) ((decimalChars n).length + e) ++ rest) =
      some (.ok (.float (Decimal.toFloat negative ⟨n, e⟩), rest)) := by
  have hvalue := numeral_decimalChars n
  have hlength := List.length_pos_of_ne_nil (decimalChars_ne_nil n)
  unfold scientific
  dsimp only
  generalize hexponent : ((decimalChars n).length : Int) + e - 1 = exponent
  generalize hdigits : zeros (2 - (decimalChars exponent.natAbs).length) ++
    decimalChars exponent.natAbs = digits
  have hpower : power ('e' :: (if exponent < 0 then '-' else '+') :: (digits ++ rest)) =
      (some exponent, rest) := by
    subst hdigits
    apply power_signed
    · simp [decimalChars_ne_nil]
    · exact fun c hc => isDigit_of_mem_zeros_append hc
    · rw [numeral_append, numeral_zeros, numeral_decimalChars]
      omega
    · exact hrest
  rw [List.append_assoc _ _ (decimalChars exponent.natAbs), List.cons_append,
    List.cons_append, hdigits,
    List.append_assoc, List.append_assoc]
  split
  · rename_i hone
    have hall : (decimalChars n).take 1 = decimalChars n := List.take_of_length_le hone
    rw [hall, List.nil_append, List.cons_append, List.cons_append]
    rw [magnitudeOf_eq negative (isWhole_decimalChars n) (noDigit_cons rfl)
      (fraction_none (by simp))
      hpower (.inr rfl)]
    have hdecimal :
        (⟨numeral (decimalChars n ++ []), (some exponent).getD 0 - ([] : List Char).length⟩ :
        Decimal) = ⟨n, e⟩ := by
      rw [List.append_nil, hvalue, Option.getD_some, List.length_nil]
      congr 1
      omega
    rw [hdecimal]
  · rename_i hmore
    have hrest' : NoDigit ('e' :: (if exponent < 0 then '-' else '+') :: (digits ++ rest)) :=
      noDigit_cons rfl
    have hne : (decimalChars n).drop 1 ≠ [] := by
      rw [ne_eq, List.drop_eq_nil_iff]
      omega
    rw [List.cons_append, List.cons_append, List.cons_append,
      magnitudeOf_eq negative (isWhole_take n 0) (noDigit_cons rfl) (fraction_point hne
      (fun c hc => isDigit_of_mem_decimalChars (List.mem_of_mem_drop hc)) hrest') hpower (.inr rfl)]
    have hdecimal : (⟨numeral ((decimalChars n).take 1 ++ (decimalChars n).drop 1),
        (some exponent).getD 0 - ((decimalChars n).drop 1).length⟩ : Decimal) = ⟨n, e⟩ := by
      rw [List.take_append_drop, hvalue, Option.getD_some, List.length_drop]
      congr 1
      omega
    rw [hdecimal]

theorem magnitudeOf_naturalChars (negative : Bool) {bits : Nat}
    (hfinite : bits < Binary64.infinityBits) (hrest : Ends rest) :
    magnitudeOf negative (naturalChars bits ++ rest) =
      some (.ok (.float (Binary64.ofMagnitude negative bits), rest)) := by
  have hzero : (Decimal.shortest bits).digits = 0 → (Decimal.shortest bits).exponent = 0 := by
    intro hdigits
    rcases Nat.eq_zero_or_pos bits with rfl | hpos
    · rfl
    · have := Decimal.digits_shortest_pos hpos hfinite
      omega
  have hpoint : (if bits = 0 then 1 else
      ((decimalChars (Decimal.shortest bits).digits).length : Int) +
        (Decimal.shortest bits).exponent) =
      (decimalChars (Decimal.shortest bits).digits).length + (Decimal.shortest bits).exponent := by
    split
    · rename_i hbits
      rw [hbits]
      rfl
    · rfl
  unfold naturalChars
  dsimp only
  rw [hpoint]
  split
  · obtain ⟨whole, places, htext, hwhole, hne, hplaces, hvalue⟩ := positional_split hzero
    rw [htext, magnitudeOf_point hwhole hne hplaces hrest, Decimal.toFloat_of_value hfinite hvalue]
  · rw [magnitudeOf_scientific hrest.noDigit, Decimal.toFloat_of_value hfinite rfl]

theorem readPlain_naturalText (x : Float) (hrest : Ends rest) :
    readPlain ((naturalText ("Infinity", "NaN") x).toList ++ rest) = .ok (.float x, rest) := by
  rw [naturalText]
  dsimp only
  split
  · rename_i hnan
    rw [Binary64.eq_nan hnan]
    rfl
  · rename_i hnumber
    have hx : Binary64.ofMagnitude (Binary64.isNegative x) (Binary64.magnitude x) = x :=
      Binary64.ofMagnitude_magnitude (by omega)
    rw [signChars]
    generalize Binary64.isNegative x = negative at hx
    generalize Binary64.magnitude x = bits at hx hnumber
    split
    · rename_i hinfinite
      rw [← hx, hinfinite]
      cases negative with
      | false =>
        rw [Binary64.ofMagnitude_infinity]
        rfl
      | true =>
        rw [Binary64.ofMagnitude_neg_infinity]
        rfl
    · rename_i hfinite
      have hbits : bits < Binary64.infinityBits := by omega
      have hread := magnitudeOf_naturalChars negative hbits hrest
      rw [hx] at hread
      rw [String.toList_ofList, List.append_assoc]
      exact readPlain_number hread

theorem naturalText_first (x : Float) :
    ∃ c cs, (naturalText ("Infinity", "NaN") x).toList = c :: cs ∧
    (c.isDigit ∨ c = '-' ∨ c = 'N' ∨ c = 'I') := by
  rw [naturalText, signChars]
  dsimp only
  split
  · exact ⟨_, _, rfl, .inr (.inr (.inl rfl))⟩
  · split
    · cases Binary64.isNegative x with
      | false => exact ⟨_, _, rfl, .inr (.inr (.inr rfl))⟩
      | true => exact ⟨_, _, rfl, .inr (.inl rfl)⟩
    · rw [String.toList_ofList]
      cases Binary64.isNegative x with
      | false =>
        have hbits : Binary64.magnitude x < Binary64.infinityBits := by omega
        have hread := magnitudeOf_naturalChars false hbits ends_nil
        obtain ⟨c, cs, htext, hc⟩ := magnitudeOf_first hread
        rw [List.append_nil] at htext
        exact ⟨c, cs, htext, .inl hc⟩
      | true => exact ⟨_, _, rfl, .inr (.inl rfl)⟩

end TextMemory.Json
