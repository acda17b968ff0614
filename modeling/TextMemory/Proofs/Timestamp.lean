import TextMemory.Proofs.Json.Number
import TextMemory.Timestamp.Reader

/-!
# Points in time read back

The written form of a point in time is read as that point. The clock and the offset are both parts
of two digits joined by colons, perhaps with a fraction. Only an offset of less than a second is
read as none.
-/
namespace TextMemory
namespace TimeParts

open Json (numeral)

variable {n width : Nat}

def Ascii (cs : List Char) : Prop := ∀ c ∈ cs, c.toNat < 128

theorem ascii_nil : Ascii [] := by simp [Ascii]

theorem ascii_cons {c : Char} {cs : List Char} : Ascii (c :: cs) ↔ c.toNat < 128 ∧ Ascii cs :=
  List.forall_mem_cons

theorem ascii_append {cs ds : List Char} : Ascii (cs ++ ds) ↔ Ascii cs ∧ Ascii ds :=
  List.forall_mem_append

theorem utf8_of_ascii {cs : List Char} (hcs : Ascii cs) :
    cs.flatMap String.utf8EncodeChar = cs.map octet := by
  induction cs with
  | nil => rfl
  | cons c cs ih =>
    obtain ⟨hc, hcs⟩ := ascii_cons.mp hcs
    have hsize : c.utf8Size = 1 := by
      refine Char.utf8Size_eq_one_iff.mpr (UInt32.le_iff_toNat_le.mpr ?_)
      change c.toNat ≤ 127
      omega
    rw [List.flatMap_cons, String.utf8EncodeChar_eq_singleton hsize, ih hcs]
    rfl

def digits (width n : Nat) : Octets := (padded width n).map octet

theorem isDigit_of_mem_padded {c : Char} (hc : c ∈ padded width n) : c.isDigit := by
  rcases List.mem_append.mp hc with hc | hc
  · exact Json.isDigit_of_mem_zeros hc
  · exact Json.isDigit_of_mem_decimalChars hc

theorem numeral_padded (width n : Nat) : numeral (padded width n) = n := by
  rw [padded, Json.numeral_append, Json.numeral_zeros, Json.numeral_decimalChars, Nat.zero_mul,
    Nat.zero_add]

theorem digits_length (hwidth : 0 < width) (hn : n < 10 ^ width) :
    (digits width n).length = width := by
  have hle : (decimalChars n).length ≤ width :=
    (Nat.length_toDigits_le_iff (by decide) hwidth).mpr hn
  rw [digits, List.length_map, padded, List.length_append, zeros, List.length_replicate]
  omega

theorem toNat_of_isDigit {c : Char} (hc : c.isDigit) : 48 ≤ c.toNat ∧ c.toNat ≤ 57 :=
  Char.isDigit_iff_toNat.mp hc

theorem octet_toNat {c : Char} (hc : c.isDigit) : (octet c).toNat = c.toNat := by
  have hrange := toNat_of_isDigit hc
  have hoctet : (octet c).toNat = c.toNat % 256 := rfl
  omega

theorem isDigitOctet_of_mem_digits {b : UInt8} (hb : b ∈ digits width n) :
    isDigitOctet b = true := by
  obtain ⟨c, hc, rfl⟩ := List.mem_map.mp hb
  have hdigit := isDigit_of_mem_padded hc
  have hrange := toNat_of_isDigit hdigit
  have hoctet := octet_toNat hdigit
  simp only [isDigitOctet, Bool.and_eq_true, decide_eq_true_eq, UInt8.le_iff_toNat_le, hoctet]
  exact hrange

theorem digitsValue_digits (width n : Nat) : digitsValue (digits width n) = n := by
  have hvalues : (digits width n).map (fun b => b.toNat - 48) =
      (padded width n).map Json.digitValue := by
    rw [digits, List.map_map]
    apply List.map_congr_left
    intro c hc
    change (octet c).toNat - 48 = c.toNat - 48
    rw [octet_toNat (isDigit_of_mem_padded hc)]
  rw [digitsValue, hvalues]
  exact numeral_padded width n

theorem takeNumber_digits (hwidth : 0 < width) (hn : n < 10 ^ width) (rest : Octets) :
    takeNumber? width (digits width n ++ rest) = some (n, rest) := by
  have hlength := digits_length hwidth hn
  have hdigits : (digits width n).all isDigitOctet = true :=
    List.all_eq_true.mpr fun b hb => isDigitOctet_of_mem_digits hb
  rw [takeNumber?, List.take_left' hlength, List.drop_left' hlength]
  simp only [hlength, hdigits, and_self, if_true, digitsValue_digits]

theorem digits_first (hwidth : 0 < width) (hn : n < 10 ^ width) :
    ∃ b bs, digits width n = b :: bs ∧ isDigitOctet b = true := by
  have hlength := digits_length hwidth hn
  cases hdigits : digits width n with
  | nil =>
    rw [hdigits, List.length_nil] at hlength
    omega
  | cons b bs => exact ⟨b, bs, rfl, isDigitOctet_of_mem_digits (hdigits ▸ List.mem_cons_self)⟩

def fractionOctets (micro : Nat) : Octets := (fractionChars micro).map octet

theorem fractionOctets_zero : fractionOctets 0 = [] := rfl

theorem fractionOctets_of_pos {micro : Nat} (h : micro ≠ 0) :
    fractionOctets micro = octet '.' :: digits 6 micro := by
  rw [fractionOctets, fractionChars, if_neg h, List.map_cons, digits]

theorem readFraction_digits {micro : Nat} (hmicro : micro < 10 ^ 6) :
    readFraction? (digits 6 micro) = some ⟨[], micro, false⟩ := by
  have hlength := digits_length (by decide) hmicro
  have hdigits : (digits 6 micro).all isDigitOctet = true :=
    List.all_eq_true.mpr fun b hb => isDigitOctet_of_mem_digits hb
  have htake : (digits 6 micro).take 6 = digits 6 micro := List.take_of_length_le (by omega)
  have hdrop : (digits 6 micro).drop 6 = [] := List.drop_of_length_le (by omega)
  rw [readFraction?, htake, hdrop, if_pos hdigits, digitsValue_digits, hlength]
  simp [atEnd]

def joined : List Nat → Nat → Octets
  | [], micro => fractionOctets micro
  | p :: ps, micro => octet ':' :: (digits 2 p ++ joined ps micro)

theorem readParts_joined {parts p micro : Nat} {ps : List Nat} {colons : Option Bool}
    (hcolons : colons ≠ some false) (hp : p < 10 ^ 2) (hps : ∀ q ∈ ps, q < 10 ^ 2)
    (hparts : ps.length < parts) (hmicro : micro < 10 ^ 6) :
    readParts? parts colons (digits 2 p ++ joined ps micro) = some ⟨p :: ps, micro, false⟩ := by
  induction ps generalizing parts p colons with
  | nil =>
    obtain ⟨parts, rfl⟩ : ∃ k, parts = k + 1 := ⟨parts - 1, by simp at hparts; omega⟩
    rw [readParts?, takeNumber_digits (by decide) hp]
    by_cases hzero : micro = 0
    · subst hzero
      rfl
    · obtain ⟨b, bs, hdigits, -⟩ := digits_first (by decide) hmicro
      have hfraction := readFraction_digits hmicro
      rw [hdigits] at hfraction
      rw [joined, fractionOctets_of_pos hzero, hdigits]
      have hpoint : octet '.' ≠ octet ':' := by decide
      have hbegins : beginsFraction (octet '.') = true := by decide
      simp [hpoint, hbegins, hfraction, Clock.cons]
  | cons q qs ih =>
    obtain ⟨parts, rfl⟩ : ∃ k, parts = k + 1 := ⟨parts - 1, by simp at hparts; omega⟩
    have hq : q < 10 ^ 2 := hps q List.mem_cons_self
    have hlater : readParts? parts (some true) (digits 2 q ++ joined qs micro) =
        some ⟨q :: qs, micro, false⟩ :=
      ih (by decide) hq (fun r hr => hps r (List.mem_cons_of_mem q hr)) (by simpa using hparts)
    obtain ⟨b, bs, hdigits, -⟩ := digits_first (by decide) hq
    -- the colon that comes first settles that there are colons between all parts
    have hknown : colons.getD true = true := by
      cases colons with
      | none => rfl
      | some c => simpa using hcolons
    rw [readParts?, takeNumber_digits (by decide) hp, joined]
    rw [hdigits, List.cons_append] at hlater ⊢
    simp [hknown, hlater, Clock.cons]

def clockOctets (hour minute second micro : Nat) : Octets :=
  digits 2 hour ++ joined [minute, second] micro

theorem readClock_clock {hour minute second micro : Nat} (hhour : hour < 24) (hminute : minute < 60)
    (hsecond : second < 60) (hmicro : micro < microsPerSecond) :
    readClock? (clockOctets hour minute second micro) =
      some ⟨[hour, minute, second], micro, false⟩ := by
  refine readParts_joined (by decide) (by omega) ?_ (Nat.lt_succ_self 2) hmicro
  simp only [List.mem_cons, List.not_mem_nil, or_false, forall_eq_or_imp, forall_eq]
  omega

def offsetSeconds (micros : Nat) : List Nat :=
  if micros / microsPerSecond % 60 = 0 ∧ micros % microsPerSecond = 0 then []
  else [micros / microsPerSecond % 60]

def sizeOctets (micros : Nat) : Octets :=
  digits 2 (micros / microsPerSecond / 3600) ++
    joined (micros / microsPerSecond / 60 % 60 :: offsetSeconds micros) (micros % microsPerSecond)

def sign (o : Int) : UInt8 := octet (if o < 0 then '-' else '+')

def offsetOctets : Option Int → Octets
  | none => []
  | some o => sign o :: sizeOctets o.natAbs

theorem readClock_size {micros : Nat} (h : micros < 86400 * microsPerSecond) :
    ∃ clock, readClock? (sizeOctets micros) = some clock ∧
      clock.seconds = micros / microsPerSecond ∧ clock.micro = micros % microsPerSecond ∧
      clock.more = false := by
  have hday : micros / microsPerSecond < 86400 := Nat.div_lt_of_lt_mul (Nat.mul_comm _ _ ▸ h)
  have hmicro : micros % microsPerSecond < 10 ^ 6 := Nat.mod_lt _ (by decide)
  refine ⟨_, readParts_joined (by decide) (by omega) ?_ ?_ hmicro, ?_, rfl, rfl⟩
  · intro q hq
    rcases List.mem_cons.mp hq with rfl | hq
    · omega
    · unfold offsetSeconds at hq
      split at hq
      · cases hq
      · rw [List.mem_singleton.mp hq]
        omega
  · rw [offsetSeconds]
    split <;> simp
  · rw [offsetSeconds]
    split
    · simp [Clock.seconds]
      omega
    · simp [Clock.seconds]
      omega

/-- An offset as it is read: one of less than a second is none. -/
def readOffset (o : Int) : Int := if o.natAbs < microsPerSecond then 0 else o

theorem readOffset_offset {o : Int} (ho : offsetInRange (some o) = true) :
    readOffset? (offsetOctets (some o)) = some (readOffset o) := by
  have hrange : o.natAbs < 86400 * microsPerSecond := of_decide_eq_true ho
  have hsmall : o.natAbs / microsPerSecond = 0 ↔ o.natAbs < microsPerSecond :=
    Nat.div_eq_zero_iff_lt (by decide)
  have hwhole : o.natAbs / microsPerSecond * microsPerSecond +
      o.natAbs % microsPerSecond = o.natAbs :=
    Nat.div_add_mod' _ _
  -- the sign tells the direction also where the hours and minutes are zero
  have hminus : sign o = octet '-' ↔ o < 0 := by
    rw [sign]
    split
    · simp [*]
    · simp only [*, iff_false]
      decide
  obtain ⟨clock, hclock, hseconds, hmicro, hmore⟩ := readClock_size hrange
  have hzulu : sign o ≠ octet 'Z' := by
    rw [sign]
    split <;> decide
  rw [offsetOctets, readOffset?, if_neg hzulu, hclock]
  simp only [Option.bind_eq_bind, Option.bind_some, hmore, Bool.false_eq_true, if_false,
    hseconds, hmicro,
    readOffset, hwhole, hsmall, hminus, Option.pure_def, Option.some.injEq]
  split
  · split <;> omega
  · split <;> omega

theorem octet_of_mem_joined {ps : List Nat} {micro : Nat} {b : UInt8} (hb : b ∈ joined ps micro) :
    isDigitOctet b = true ∨ b = octet ':' ∨ b = octet '.' := by
  induction ps with
  | nil =>
    by_cases hzero : micro = 0
    · rw [joined, hzero, fractionOctets_zero] at hb
      cases hb
    · rw [joined, fractionOctets_of_pos hzero] at hb
      rcases List.mem_cons.mp hb with rfl | hb
      · exact .inr (.inr rfl)
      · exact .inl (isDigitOctet_of_mem_digits hb)
  | cons p ps ih =>
    rcases List.mem_cons.mp hb with rfl | hb
    · exact .inr (.inl rfl)
    · rcases List.mem_append.mp hb with hb | hb
      · exact .inl (isDigitOctet_of_mem_digits hb)
      · exact ih hb

theorem not_beginsOffset_of_digit {b : UInt8} (hb : isDigitOctet b = true) :
    beginsOffset b = false := by
  cases h : beginsOffset b with
  | false => rfl
  | true =>
    simp only [beginsOffset, Bool.or_eq_true, decide_eq_true_eq] at h
    rcases h with (rfl | rfl) | rfl <;> cases hb

theorem not_beginsOffset_of_mem_clock {hour minute second micro : Nat} {b : UInt8}
    (hb : b ∈ clockOctets hour minute second micro) : beginsOffset b = false := by
  rcases List.mem_append.mp hb with hb | hb
  · exact not_beginsOffset_of_digit (isDigitOctet_of_mem_digits hb)
  · rcases octet_of_mem_joined hb with hdigit | rfl | rfl
    · exact not_beginsOffset_of_digit hdigit
    · rfl
    · rfl

theorem readTime_time {hour minute second micro : Nat} {offset : Option Int} (hhour : hour < 24)
    (hminute : minute < 60) (hsecond : second < 60) (hmicro : micro < microsPerSecond)
    (hoffset : offsetInRange offset = true) :
    readTime? (clockOctets hour minute second micro ++ offsetOctets offset) =
      some (⟨[hour, minute, second], micro, false⟩, offset.map readOffset) := by
  have hclock : ∀ b ∈ clockOctets hour minute second micro, (!beginsOffset b) = true :=
    fun b hb => by
    rw [not_beginsOffset_of_mem_clock hb]
    rfl
  have hsplit : (offsetOctets offset).takeWhile (fun b => !beginsOffset b) = [] ∧
      (offsetOctets offset).dropWhile (fun b => !beginsOffset b) = offsetOctets offset := by
    cases offset with
    | none => exact ⟨rfl, rfl⟩
    | some o =>
      have hsign : beginsOffset (sign o) = true := by
        rw [sign]
        split <;> decide
      simp [offsetOctets, hsign]
  rw [readTime?, List.takeWhile_append_of_pos hclock, List.dropWhile_append_of_pos hclock, hsplit.1,
    hsplit.2, List.append_nil, readClock_clock hhour hminute hsecond hmicro]
  cases offset with
  | none => rfl
  | some o =>
    have hread := readOffset_offset hoffset
    simp only [offsetOctets] at hread ⊢
    simp [hread]

theorem readDate_date {year month day : Nat} (hyear : year < 10 ^ 4) (hmonth : month < 10 ^ 2)
    (hday : day < 10 ^ 2) (rest : Octets) :
    readDate?
      (digits 4 year ++ octet '-' :: (digits 2 month ++ octet '-' :: (digits 2 day ++ rest))) =
      some ((year, month, day), rest) := by
  obtain ⟨b, bs, hdigits, hb⟩ := digits_first (by decide) hmonth
  have hweek : b ≠ octet 'W' := by
    rintro rfl
    cases hb
  have hhyphen : ∀ os, afterHyphen? (octet '-' :: os) = some os := fun os => by
    simp [afterHyphen?]
  rw [readDate?, takeNumber_digits (by decide) hyear]
  simp only [Option.bind_eq_bind, Option.bind_some, hhyphen, Option.isSome_some, Option.getD_some]
  rw [hdigits, List.cons_append, List.head?_cons, if_neg (by simpa using hweek), ← List.cons_append,
    ← hdigits, readMonth?, takeNumber_digits (by decide) hmonth]
  simp only [Option.bind_eq_bind, Option.bind_some, afterJoint?, if_true, hhyphen]
  rw [takeNumber_digits (by decide) hday]
  rfl

theorem offsetChars_octets (offset : Option Int) :
    (offsetChars offset).map octet = offsetOctets offset := by
  cases offset with
  | none => rfl
  | some o =>
    by_cases hrest : o.natAbs / microsPerSecond % 60 = 0 ∧ o.natAbs % microsPerSecond = 0
    · simp [offsetChars, offsetOctets, sizeOctets, offsetSeconds, hrest, joined, digits, sign,
        fractionOctets_zero]
    · simp only [offsetChars, offsetOctets, sizeOctets, offsetSeconds, hrest, if_false,
        joined, digits,
        sign, fractionOctets, List.map_append, List.map_cons, List.append_assoc, List.cons_append]

theorem chars_octets (t : TimeParts) :
    t.chars.map octet =
      digits 4 t.year ++
        octet '-' :: (digits 2 t.month ++ octet '-' :: (digits 2 t.day ++ octet 'T' ::
        (clockOctets t.hour t.minute t.second t.micro ++ offsetOctets t.offset))) := by
  simp only [chars, List.map_append, List.map_cons, List.append_assoc, List.cons_append,
    offsetChars_octets, clockOctets, joined, digits, fractionOctets]

theorem ascii_padded (width n : Nat) : Ascii (padded width n) := by
  intro c hc
  have hrange := toNat_of_isDigit (isDigit_of_mem_padded hc)
  omega

theorem ascii_fractionChars (micro : Nat) : Ascii (fractionChars micro) := by
  rw [fractionChars]
  split
  · exact ascii_nil
  · exact ascii_cons.mpr ⟨by decide, ascii_padded 6 micro⟩

theorem ascii_offsetChars (offset : Option Int) : Ascii (offsetChars offset) := by
  cases offset with
  | none => exact ascii_nil
  | some o =>
    have hsign : (if o < 0 then '-' else '+').toNat < 128 := by split <;> decide
    have hcolon : ':'.toNat < 128 := by decide
    by_cases hrest : o.natAbs / microsPerSecond % 60 = 0 ∧ o.natAbs % microsPerSecond = 0
    · simp only [offsetChars, hrest, and_self, if_true, ascii_append, ascii_cons, hsign, hcolon,
        ascii_padded, ascii_nil]
    · simp only [offsetChars, hrest, if_false, ascii_append, ascii_cons, hsign, hcolon,
        ascii_padded, ascii_fractionChars, and_self]

theorem ascii_chars (t : TimeParts) : Ascii t.chars := by
  have hmarks : '-'.toNat < 128 ∧ 'T'.toNat < 128 ∧ ':'.toNat < 128 := by decide
  simp only [chars, ascii_append, ascii_cons, hmarks, ascii_padded, ascii_fractionChars,
    ascii_offsetChars, and_self]

def asRead (t : TimeParts) : TimeParts := { t with offset := t.offset.map readOffset }

theorem InRange.asRead {t : TimeParts} (ht : t.InRange) : t.asRead.InRange := by
  obtain ⟨hlow, hyear, hmonth, hmonth', hday, hday', hhour, hminute, hsecond, hmicro, hoffset⟩ := ht
  refine ⟨hlow, hyear, hmonth, hmonth', hday, hday', hhour, hminute, hsecond, hmicro, ?_⟩
  cases ho : t.offset with
  | none => simp [TimeParts.asRead, ho, offsetInRange]
  | some o =>
    rw [ho] at hoffset
    simp only [TimeParts.asRead, ho, Option.map_some, readOffset]
    split
    · rfl
    · exact hoffset

theorem read_chars {t : TimeParts} (ht : t.InRange) :
    read? (t.chars.map octet) = some t.asRead := by
  obtain ⟨-, hyear, -, hmonth, -, hday, hhour, hminute, hsecond, hmicro, hoffset⟩ := ht
  have hmost : daysInMonth t.year t.month ≤ 31 := by
    rw [daysInMonth]
    split
    · split <;> decide
    · split <;> decide
  have htime := readTime_time hhour hminute hsecond hmicro hoffset
  obtain ⟨b, bs, hdigits, hb⟩ : ∃ b bs, digits 2 t.hour = b :: bs ∧ isDigitOctet b = true :=
    digits_first (by decide) (by omega)
  have hcontinues : continuesChar b = false := by
    cases h : continuesChar b with
    | false => rfl
    | true =>
      simp only [isDigitOctet, continuesChar, Bool.and_eq_true, decide_eq_true_eq,
        UInt8.le_iff_toNat_le] at hb h
      have hcut : (0x80 : UInt8).toNat = 128 := rfl
      have hnine : (57 : UInt8).toNat = 57 := rfl
      omega
  rw [chars_octets, read?, readDate_date (by omega) (by omega) (by omega)]
  rw [clockOctets, hdigits] at htime ⊢
  simp only [List.cons_append, List.append_assoc] at htime ⊢
  simp [hcontinues, htime, asRead]

end TimeParts

namespace Timestamp

def asRead (t : Timestamp) : Timestamp := ⟨t.toTimeParts.asRead, t.inRange.asRead⟩

theorem read_text (t : Timestamp) : read t.text = .ok t.asRead := by
  have hoctets : Text.Utf8.encode t.text = t.chars.map TimeParts.octet := by
    rw [Text.Utf8.encode, text, String.toList_ofList]
    exact TimeParts.utf8_of_ascii t.toTimeParts.ascii_chars
  rw [read, hoctets, TimeParts.read_chars t.inRange]
  exact dif_pos t.inRange.asRead

def noon : Timestamp := ⟨⟨2026, 2, 14, 12, 0, 0, 0, some 0⟩, by decide⟩

end Timestamp
end TextMemory
