import TextMemory.Settings.Literal
import TextMemory.Proofs.Json.Number
import TextMemory.Proofs.Text

/-!
# Texts of numbers

Which texts are those of an integer, and which those of a number, is said by a grammar. The reader
finds exactly these, and the numbers that the grammar gives them. A text of the grammar is read in
one way only, since no part of it can go on with what the next one begins with.
-/
namespace TextMemory

namespace Text

variable {c : Char} {d : Nat}

theorem decimalValue?_eq_some (h : decimalValue? c = some d) : ∃ z ∈ zeroDigits, c.toNat = z + d ∧
    d < 10 := by
  obtain ⟨z, hz, rfl⟩ := Option.map_eq_some_iff.mp h
  have hrange := List.find?_some hz
  simp only [Bool.and_eq_true, decide_eq_true_eq] at hrange
  exact ⟨z, List.mem_of_find?_eq_some hz, by omega, by omega⟩

theorem decimalValue?_of_isDigit (h : c.isDigit) :
    decimalValue? c = some (c.toNat - '0'.toNat) := by
  obtain ⟨hlow, hhigh⟩ : 48 ≤ c.toNat ∧ c.toNat ≤ 57 := Char.isDigit_iff_toNat.mp h
  simp [decimalValue?, zeroDigits, hlow, Nat.lt_succ_of_le hhigh]

theorem decimalValue?_range (h : decimalValue? c = some d) :
    c.toNat = 0x30 + d ∧ d < 10 ∨ 0x660 ≤ c.toNat := by
  have hzeros : ∀ z ∈ zeroDigits, z = 0x30 ∨ 0x660 ≤ z := by decide
  obtain ⟨z, hz, hc, hlt⟩ := decimalValue?_eq_some h
  rcases hzeros z hz with rfl | hz <;> omega

theorem decimalValue?_of_small (hsmall : c.toNat < 0x660) (h : c.isDigit = false) :
    decimalValue? c = none := by
  by_contra hsome
  obtain ⟨d, hd⟩ := Option.ne_none_iff_exists'.mp hsome
  have hrange := decimalValue?_range hd
  have hdigit : c.isDigit = true :=
    Char.isDigit_iff_toNat.mpr ⟨show 48 ≤ c.toNat by omega, show c.toNat ≤ 57 by omega⟩
  rw [hdigit] at h
  cases h

end Text

namespace Literal

open Text (decimalValue?)

variable {c e : Char} {d : Nat} {cs text rest sign : List Char} {ds : List Nat} {negative : Bool}

/-- Further digits behind a digit, each after one underscore at most, and their values. -/
inductive FurtherDigits : List Char → List Nat → Prop
  | nil : FurtherDigits [] []
  | next {c : Char} {d : Nat} {cs : List Char} {ds : List Nat} (hc : decimalValue? c = some d)
      (hfurther : FurtherDigits cs ds) : FurtherDigits (c :: cs) (d :: ds)
  | apart {c : Char} {d : Nat} {cs : List Char} {ds : List Nat} (hc : decimalValue? c = some d)
      (hfurther : FurtherDigits cs ds) : FurtherDigits ('_' :: c :: cs) (d :: ds)

inductive Digits : List Char → List Nat → Prop
  | of {c : Char} {d : Nat} {cs : List Char} {ds : List Nat} (hc : decimalValue? c = some d)
      (hfurther : FurtherDigits cs ds) : Digits (c :: cs) (d :: ds)

inductive AnyDigits : List Char → List Nat → Prop
  | absent : AnyDigits [] []
  | present {text : List Char} {ds : List Nat} (h : Digits text ds) : AnyDigits text ds

inductive Sign : List Char → Bool → Prop
  | absent : Sign [] false
  | plus : Sign ['+'] false
  | minus : Sign ['-'] true

def signedValue (negative : Bool) (ds : List Nat) : Int :=
  if negative then -(ofDigits ds : Int) else ofDigits ds

inductive IntegerText : List Char → Int → Prop
  | of {sign text : List Char} {negative : Bool} {ds : List Nat} (hsign : Sign sign negative)
      (htext : Digits text ds) (hlimit : ds.length ≤ digitLimit) :
      IntegerText (sign ++ text) (signedValue negative ds)

inductive Places : List Char → List Nat → Prop
  | absent : Places [] []
  | point {text : List Char} {ds : List Nat} (h : AnyDigits text ds) : Places ('.' :: text) ds

inductive Power : List Char → Int → Prop
  | absent : Power [] 0
  | of {e : Char} {sign text : List Char} {negative : Bool} {ds : List Nat} (he : e = 'e' ∨ e = 'E')
      (hsign : Sign sign negative) (htext : Digits text ds) :
      Power (e :: (sign ++ text)) (signedValue negative ds)

/-- The texts of a number: a name of infinity, of what is no number, or a decimal with a digit at
least before or behind the point. -/
inductive NumberText : List Char → Float → Prop
  | infinity {sign name : List Char} {negative : Bool} (hsign : Sign sign negative)
      (hname : name.map Char.toLower = "inf".toList ∨ name.map Char.toLower = "infinity".toList) :
      NumberText (sign ++ name) (if negative then -(1.0 / 0.0) else 1.0 / 0.0)
  | nan {sign name : List Char} {negative : Bool} (hsign : Sign sign negative)
      (hname : name.map Char.toLower = "nan".toList) :
      NumberText (sign ++ name) (if negative then -(0.0 / 0.0) else 0.0 / 0.0)
  | decimal {sign whole places power : List Char} {negative : Bool} {ws ps : List Nat} {e : Int}
      (hsign : Sign sign negative) (hwhole : AnyDigits whole ws) (hplaces : Places places ps)
      (hne : ws ++ ps ≠ []) (hpower : Power power e) :
      NumberText (sign ++ (whole ++ (places ++ power)))
        (Decimal.toFloat negative ⟨ofDigits (ws ++ ps), e - ps.length⟩)

theorem plainDigit_of_some (h : decimalValue? c = some d) : plainDigit c = d.digitChar := by
  rw [plainDigit, h]

theorem plainDigit_of_none (h : decimalValue? c = none) : plainDigit c = c := by
  rw [plainDigit, h]

theorem isDigit_digitChar (hd : d < 10) : d.digitChar.isDigit := by
  interval_cases d <;> rfl

theorem isDigit_plainDigit (c : Char) : (plainDigit c).isDigit = (decimalValue? c).isSome := by
  cases hc : decimalValue? c with
  | none =>
    rw [plainDigit_of_none hc, Option.isSome_none, ← Bool.not_eq_true]
    intro hdigit
    rw [Text.decimalValue?_of_isDigit hdigit] at hc
    cases hc
  | some d =>
    obtain ⟨-, -, -, hd⟩ := Text.decimalValue?_eq_some hc
    rw [plainDigit_of_some hc, isDigit_digitChar hd, Option.isSome_some]

theorem plainDigit_eq_iff (he : e.isDigit = false) (hsmall : e.toNat < 0x660) :
    plainDigit c = e ↔ c = e := by
  have hnone := Text.decimalValue?_of_small hsmall he
  constructor
  · intro h
    cases hc : decimalValue? c with
    | none => rw [← plainDigit_of_none hc, h]
    | some d =>
      have hdigit := isDigit_plainDigit c
      rw [h, he, hc] at hdigit
      cases hdigit
  · rintro rfl
    exact plainDigit_of_none hnone

def Stops (rest : List Char) : Prop := ∀ c ∈ rest.head?, decimalValue? c = none ∧ c ≠ '_'

theorem stops_nil : Stops [] := by simp [Stops]

theorem stops_cons (hc : decimalValue? c = none) (hne : c ≠ '_') : Stops (c :: rest) := by
  intro d hd
  cases hd
  exact ⟨hc, hne⟩

theorem spanDigits_stops (after : Bool) (h : Stops rest) :
    spanDigits after (rest.map plainDigit) = some ([], rest.map plainDigit) := by
  cases rest with
  | nil => rfl
  | cons c rest =>
    obtain ⟨hc, hne⟩ := h c rfl
    have hdigit := isDigit_plainDigit c
    rw [hc, plainDigit_of_none hc] at hdigit
    rw [List.map_cons, plainDigit_of_none hc, spanDigits, hdigit]
    simp [hne]

theorem spanDigits_next (after : Bool) (hc : decimalValue? c = some d) :
    spanDigits after ((c :: cs).map plainDigit) =
      (spanDigits true (cs.map plainDigit)).map fun (ds, rest) => (d.digitChar :: ds, rest) := by
  have hdigit := isDigit_plainDigit c
  rw [hc, Option.isSome_some] at hdigit
  rw [List.map_cons, spanDigits, if_pos hdigit, plainDigit_of_some hc]

theorem plainDigit_underscore : plainDigit '_' = '_' := plainDigit_of_none (by decide)

theorem spanDigits_apart (hc : decimalValue? c = some d) :
    spanDigits true (('_' :: c :: cs).map plainDigit) =
      (spanDigits true (cs.map plainDigit)).map fun (ds, rest) => (d.digitChar :: ds, rest) := by
  have hdigit := isDigit_plainDigit c
  rw [hc] at hdigit
  rw [← spanDigits_next false hc, List.map_cons, List.map_cons, plainDigit_underscore, spanDigits]
  simp [hdigit]

theorem FurtherDigits.span (h : FurtherDigits text ds) (hrest : Stops rest) :
    spanDigits true ((text ++ rest).map plainDigit) =
      some (ds.map Nat.digitChar, rest.map plainDigit) := by
  induction h with
  | nil => exact spanDigits_stops true hrest
  | next hc _ ih =>
    rw [List.cons_append, spanDigits_next true hc, ih]
    rfl
  | apart hc _ ih =>
    rw [List.cons_append, List.cons_append, spanDigits_apart hc, ih]
    rfl

theorem AnyDigits.span (h : AnyDigits text ds) (hrest : Stops rest) :
    spanDigits false ((text ++ rest).map plainDigit) =
      some (ds.map Nat.digitChar, rest.map plainDigit) := by
  cases h with
  | absent => exact spanDigits_stops false hrest
  | present h =>
    cases h with
    | of hc hfurther =>
      rw [List.cons_append, spanDigits_next false hc, hfurther.span hrest]
      rfl

theorem underscore_before_digit {after : Bool} {found left : List Char}
    (h : spanDigits after (('_' :: cs).map plainDigit) = some (found, left)) :
    after = true ∧ ∃ c d rest, cs = c :: rest ∧ decimalValue? c = some d := by
  rw [List.map_cons, plainDigit_underscore, spanDigits, if_neg (by decide), if_pos rfl] at h
  split at h
  · rename_i hnext
    rw [Bool.and_eq_true] at hnext
    cases cs with
    | nil => cases hnext.2
    | cons c rest =>
      have hdigit : (plainDigit c).isDigit = true := hnext.2
      rw [isDigit_plainDigit] at hdigit
      obtain ⟨d, hd⟩ := Option.isSome_iff_exists.mp hdigit
      exact ⟨hnext.1, c, d, rest, rfl, hd⟩
  · cases h

theorem exists_furtherDigits {found left : List Char}
    (h : spanDigits true (cs.map plainDigit) = some (found, left)) :
    ∃ text ds rest, cs = text ++ rest ∧ FurtherDigits text ds ∧
      found = ds.map Nat.digitChar ∧ left = rest.map plainDigit := by
  induction hn : cs.length using Nat.strong_induction_on generalizing cs found with
  | _ n ih =>
    cases cs with
    | nil =>
      cases h
      exact ⟨[], [], [], rfl, .nil, rfl, rfl⟩
    | cons c cs =>
      cases hc : decimalValue? c with
      | some d =>
        rw [spanDigits_next true hc, Option.map_eq_some_iff] at h
        obtain ⟨⟨found, left⟩, hspan, hfound⟩ := h
        cases hfound
        obtain ⟨text, ds, rest, rfl, hfurther, rfl, rfl⟩ := ih cs.length (by simp [← hn]) hspan rfl
        exact ⟨c :: text, d :: ds, rest, rfl, .next hc hfurther, rfl, rfl⟩
      | none =>
        by_cases hne : c = '_'
        · subst hne
          obtain ⟨-, c, d, cs, rfl, hc⟩ := underscore_before_digit h
          rw [spanDigits_apart hc, Option.map_eq_some_iff] at h
          obtain ⟨⟨found, left⟩, hspan, hfound⟩ := h
          cases hfound
          obtain ⟨text, ds, rest, rfl, hfurther, rfl, rfl⟩ :=
            ih cs.length (by simp [← hn]) hspan rfl
          exact ⟨'_' :: c :: text, d :: ds, rest, rfl, .apart hc hfurther, rfl, rfl⟩
        · rw [spanDigits_stops true (stops_cons hc hne)] at h
          cases h
          exact ⟨[], [], c :: cs, rfl, .nil, rfl, rfl⟩

theorem exists_anyDigits {found left : List Char}
    (h : spanDigits false (cs.map plainDigit) = some (found, left)) :
    ∃ text ds rest, cs = text ++ rest ∧ AnyDigits text ds ∧
      found = ds.map Nat.digitChar ∧ left = rest.map plainDigit := by
  cases cs with
  | nil =>
    cases h
    exact ⟨[], [], [], rfl, .absent, rfl, rfl⟩
  | cons c cs =>
    cases hc : decimalValue? c with
    | some d =>
      rw [spanDigits_next false hc, Option.map_eq_some_iff] at h
      obtain ⟨⟨found, left⟩, hspan, hfound⟩ := h
      cases hfound
      obtain ⟨text, ds, rest, rfl, hfurther, rfl, rfl⟩ := exists_furtherDigits hspan
      exact ⟨c :: text, d :: ds, rest, rfl, .present (.of hc hfurther), rfl, rfl⟩
    | none =>
      have hne : c ≠ '_' := by
        rintro rfl
        cases (underscore_before_digit h).1
      rw [spanDigits_stops false (stops_cons hc hne)] at h
      cases h
      exact ⟨[], [], c :: cs, rfl, .absent, rfl, rfl⟩

theorem FurtherDigits.lt_ten (h : FurtherDigits text ds) : ∀ d ∈ ds, d < 10 := by
  induction h with
  | nil => simp
  | next hc _ ih | apart hc _ ih =>
    obtain ⟨-, -, -, hd⟩ := Text.decimalValue?_eq_some hc
    exact List.forall_mem_cons.mpr ⟨hd, ih⟩

theorem AnyDigits.lt_ten (h : AnyDigits text ds) : ∀ d ∈ ds, d < 10 := by
  cases h with
  | absent => simp
  | present h =>
    cases h with
    | of hc hfurther => exact (FurtherDigits.next hc hfurther).lt_ten

theorem value_digitChars (h : ∀ d ∈ ds, d < 10) : value (ds.map Nat.digitChar) = ofDigits ds := by
  have hdigits : (ds.map Nat.digitChar).map (fun c => c.toNat - '0'.toNat) = ds := by
    rw [List.map_map, List.map_congr_left, List.map_id]
    intro d hd
    rw [Function.comp_apply, Nat.toNat_digitChar_of_lt_ten (h d hd)]
    exact Nat.add_sub_cancel_left 48 d
  rw [value, hdigits]

theorem Digits.ne_nil (h : Digits text ds) : ds ≠ [] := by
  cases h
  exact List.cons_ne_nil _ _

theorem Digits.first (h : Digits text ds) : ∀ c ∈ text.head?, (decimalValue? c).isSome := by
  cases h with
  | of hc _ =>
    intro c hfirst
    cases hfirst
    rw [hc, Option.isSome_some]

theorem signed_map (cs : List Char) :
    signed (cs.map plainDigit) = ((signed cs).1, (signed cs).2.map plainDigit) := by
  cases cs with
  | nil => rfl
  | cons c cs =>
    have hminus : plainDigit c = '-' ↔ c = '-' := plainDigit_eq_iff rfl (by decide)
    have hplus : plainDigit c = '+' ↔ c = '+' := plainDigit_eq_iff rfl (by decide)
    by_cases h : c = '-'
    · subst h
      rw [List.map_cons, hminus.mpr rfl]
      rfl
    · by_cases h' : c = '+'
      · subst h'
        rw [List.map_cons, hplus.mpr rfl]
        rfl
      · simp [signed, hminus, hplus, h, h']

theorem exists_sign (cs : List Char) : ∃ sign, Sign sign (signed cs).1 ∧
    cs = sign ++ (signed cs).2 := by
  unfold signed
  split
  · exact ⟨_, .minus, rfl⟩
  · exact ⟨_, .plus, rfl⟩
  · exact ⟨_, .absent, rfl⟩

def Unsigned (text : List Char) : Prop := ∀ c ∈ text.head?, c ≠ '-' ∧ c ≠ '+'

theorem Sign.signed_append (h : Sign sign negative) (htext : Unsigned text) :
    signed (sign ++ text) = (negative, text) := by
  cases h with
  | minus => rfl
  | plus => rfl
  | absent =>
    cases text with
    | nil => rfl
    | cons c text =>
      obtain ⟨hminus, hplus⟩ := htext c rfl
      simp [signed, hminus, hplus]

theorem Digits.unsigned (h : Digits text ds) : Unsigned text := by
  intro c hc
  have hsome := h.first c hc
  constructor <;>
  · rintro rfl
    revert hsome
    decide

theorem exists_signed_digits {found : List Char} (hne : found ≠ [])
    (h : spanDigits false ((signed cs).2.map plainDigit) = some (found, [])) :
    ∃ sign text ds, cs = sign ++ text ∧ Sign sign (signed cs).1 ∧ Digits text ds ∧
      found = ds.map Nat.digitChar := by
  obtain ⟨sign, hsign, hcs⟩ := exists_sign cs
  obtain ⟨text, ds, rest, htext, hdigits, rfl, hrest⟩ := exists_anyDigits h
  obtain rfl : rest = [] := List.map_eq_nil_iff.mp hrest.symm
  rw [htext, List.append_nil] at hcs
  cases hdigits with
  | absent => exact (hne rfl).elim
  | present hdigits => exact ⟨sign, text, ds, hcs, hsign, hdigits, rfl⟩

theorem Digits.span_all (h : Digits text ds) :
    spanDigits false (text.map plainDigit) = some (ds.map Nat.digitChar, []) := by
  have hspan := (AnyDigits.present h).span stops_nil
  rwa [List.append_nil, List.map_nil] at hspan

theorem Digits.signedValue_eq (h : Digits text ds) (negative : Bool) :
    (if negative then -(value (ds.map Nat.digitChar) : Int)
      else (value (ds.map Nat.digitChar) : Int)) =
      signedValue negative ds := by
  rw [value_digitChars (AnyDigits.present h).lt_ten, signedValue]

theorem int_eq_ok {s : String} {n : Int} :
    int s = .ok n ↔ IntegerText (Text.trimChars isSpace s.toList) n := by
  rw [int, plain, signed_map]
  generalize Text.trimChars isSpace s.toList = cs
  constructor
  · intro h
    dsimp only at h
    split at h
    · cases h
    · cases h
    · rename_i found left hne hspan
      split at h
      · cases h
      · rename_i hlimit
        split at h
        · rename_i hend
          obtain rfl : left = [] := List.isEmpty_iff.mp hend
          obtain ⟨sign, text, ds, hcs, hsign, htext, rfl⟩ := exists_signed_digits hne hspan
          rw [htext.signedValue_eq] at h
          cases h
          rw [List.length_map] at hlimit
          rw [hcs]
          exact .of (hcs ▸ hsign) htext (Nat.le_of_not_lt hlimit)
        · cases h
  · rintro ⟨hsign, htext, hlimit⟩
    rw [hsign.signed_append htext.unsigned]
    dsimp only
    have hvalue := htext.signedValue_eq
    rw [htext.span_all]
    obtain ⟨d, ds, rfl⟩ := List.exists_cons_of_ne_nil htext.ne_nil
    rw [List.map_cons] at hvalue ⊢
    dsimp only
    rw [List.length_cons, List.length_map, ← List.length_cons (a := d),
      if_neg (Nat.not_lt_of_le hlimit),
      List.isEmpty_nil, if_pos rfl, hvalue]

theorem Power.first {e : Int} (h : Power text e) : ∀ c ∈ text.head?, c = 'e' ∨ c = 'E' := by
  cases h with
  | absent => simp
  | of he _ _ =>
    intro c hc
    cases hc
    exact he

theorem Power.stops {e : Int} (h : Power text e) : Stops text := by
  intro c hc
  rcases h.first c hc with rfl | rfl <;> decide

theorem power?_eq_some {e : Int} : power? (cs.map plainDigit) = some e ↔ Power cs e := by
  constructor
  · intro h
    cases cs with
    | nil =>
      cases h
      exact .absent
    | cons c cs =>
      have he : plainDigit c = 'e' ↔ c = 'e' := plainDigit_eq_iff rfl (by decide)
      have hE : plainDigit c = 'E' ↔ c = 'E' := plainDigit_eq_iff rfl (by decide)
      rw [List.map_cons, power?, signed_map] at h
      split at h
      · rename_i hc
        simp only [Bool.or_eq_true, decide_eq_true_eq, he, hE] at hc
        dsimp only at h
        rw [Option.bind_eq_bind, Option.bind_eq_some_iff] at h
        obtain ⟨⟨found, left⟩, hspan, h⟩ := h
        dsimp only at h
        split at h
        · cases h
        · rename_i hwhole
          simp only [Bool.or_eq_true, Bool.not_eq_true', not_or, Bool.not_eq_false,
            List.isEmpty_iff] at hwhole
          obtain ⟨hne, rfl⟩ := hwhole
          obtain ⟨sign, text, ds, hcs, hsign, htext, rfl⟩ := exists_signed_digits hne hspan
          rw [htext.signedValue_eq] at h
          cases h
          rw [hcs]
          exact .of hc (hcs ▸ hsign) htext
      · cases h
  · intro h
    cases h with
    | absent => rfl
    | of he hsign htext =>
      rename_i c sign text negative ds
      have hplain : plainDigit c = c := by rcases he with rfl | rfl <;> decide
      have hletter : (decide (c = 'e') || decide (c = 'E')) = true := by simpa using he
      rw [List.map_cons, hplain, power?, if_pos hletter, signed_map,
        hsign.signed_append htext.unsigned]
      dsimp only
      rw [htext.span_all, ← htext.signedValue_eq]
      simp [htext.ne_nil]

theorem exists_places {found left : List Char}
    (h : places? (cs.map plainDigit) = some (found, left)) :
    ∃ text ds rest, cs = text ++ rest ∧ Places text ds ∧
      found = ds.map Nat.digitChar ∧ left = rest.map plainDigit := by
  cases cs with
  | nil =>
    cases h
    exact ⟨[], [], [], rfl, .absent, rfl, rfl⟩
  | cons c cs =>
    have hpoint : plainDigit c = '.' ↔ c = '.' := plainDigit_eq_iff rfl (by decide)
    by_cases hc : c = '.'
    · subst hc
      rw [List.map_cons, hpoint.mpr rfl, places?] at h
      obtain ⟨text, ds, rest, rfl, hdigits, rfl, rfl⟩ := exists_anyDigits h
      exact ⟨'.' :: text, ds, rest, rfl, .point hdigits, rfl, rfl⟩
    · rw [List.map_cons, places?] at h
      · cases h
        exact ⟨[], [], c :: cs, rfl, .absent, rfl, rfl⟩
      · intro rest hrest
        exact hc (hpoint.mp (List.cons.inj hrest).1)

theorem Places.span {e : Int} (h : Places text ds) (hpower : Power rest e) :
    places? ((text ++ rest).map plainDigit) = some (ds.map Nat.digitChar, rest.map plainDigit) := by
  cases h with
  | absent =>
    cases hpower with
    | absent => rfl
    | of he _ _ => rcases he with rfl | rfl <;> rfl
  | point h =>
    have hpoint : plainDigit '.' = '.' := by decide
    rw [List.cons_append, List.map_cons, hpoint, places?, h.span hpower.stops]

theorem Places.lt_ten (h : Places text ds) : ∀ d ∈ ds, d < 10 := by
  cases h with
  | absent => simp
  | point h => exact h.lt_ten

theorem Places.stops {e : Int} (h : Places text ds) (hpower : Power rest e) :
    Stops (text ++ rest) := by
  cases h with
  | absent => exact hpower.stops
  | point h => exact stops_cons (by decide) (by decide)

theorem value_whole_places {places : List Char} {ws ps : List Nat} (hwhole : AnyDigits text ws)
    (hplaces : Places places ps) :
    value (ws.map Nat.digitChar ++ ps.map Nat.digitChar) = ofDigits (ws ++ ps) := by
  rw [← List.map_append, value_digitChars]
  intro d hd
  exact (List.mem_append.mp hd).elim (hwhole.lt_ten d) (hplaces.lt_ten d)

theorem decimal?_eq_some {x : Decimal} : decimal? (cs.map plainDigit) = some x ↔
    ∃ whole places power ws ps e, cs = whole ++ (places ++ power) ∧ AnyDigits whole ws ∧
      Places places ps ∧
      ws ++ ps ≠ [] ∧ Power power e ∧ x = ⟨ofDigits (ws ++ ps), e - ps.length⟩ := by
  have hempty (ws ps : List Nat) :
      ((ws.map Nat.digitChar).isEmpty && (ps.map Nat.digitChar).isEmpty) = true ↔
      ws ++ ps = [] := by simp
  rw [decimal?]
  constructor
  · intro h
    simp only [Option.bind_eq_bind, Option.bind_eq_some_iff] at h
    obtain ⟨⟨found, left⟩, hspan, h⟩ := h
    obtain ⟨whole, ws, rest, rfl, hwhole, rfl, rfl⟩ := exists_anyDigits hspan
    obtain ⟨⟨found, left⟩, hspan, h⟩ := h
    obtain ⟨places, ps, power, rfl, hplaces, rfl, rfl⟩ := exists_places hspan
    by_cases hne : ws ++ ps = []
    · rw [if_pos ((hempty ws ps).mpr hne)] at h
      cases h
    · rw [if_neg (mt (hempty ws ps).mp hne), Option.bind_eq_some_iff,
        value_whole_places hwhole hplaces,
        List.length_map] at h
      obtain ⟨e, hpower, h⟩ := h
      cases h
      exact ⟨whole, places, power, ws, ps, e, rfl, hwhole, hplaces, hne,
        power?_eq_some.mp hpower, rfl⟩
  · rintro ⟨whole, places, power, ws, ps, e, rfl, hwhole, hplaces, hne, hpower, rfl⟩
    rw [hwhole.span (hplaces.stops hpower)]
    dsimp only [Option.bind_eq_bind, Option.bind_some]
    rw [hplaces.span hpower]
    dsimp only [Option.bind_eq_bind, Option.bind_some]
    rw [if_neg (mt (hempty ws ps).mp hne), power?_eq_some.mpr hpower,
      value_whole_places hwhole hplaces,
      List.length_map]
    rfl

/-! ### Names -/

theorem toLower_plainDigit (he : 97 ≤ e.toNat ∧ e.toNat ≤ 122) : (plainDigit c).toLower = e ↔
    c.toLower = e := by
  cases hc : decimalValue? c with
  | none => rw [plainDigit_of_none hc]
  | some d =>
    -- neither the digit nor the character that it comes from is a letter
    have hrange := Text.decimalValue?_range hc
    obtain ⟨-, -, -, hd⟩ := Text.decimalValue?_eq_some hc
    have hplain := Text.toNat_toLower (plainDigit c)
    have hlower := Text.toNat_toLower c
    rw [plainDigit_of_some hc, Nat.toNat_digitChar_of_lt_ten hd, if_neg (by omega)] at hplain
    rw [if_neg (by omega)] at hlower
    rw [plainDigit_of_some hc]
    constructor
    · rintro rfl
      omega
    · rintro rfl
      omega

theorem map_toLower_plainDigit {name : List Char}
    (hname : ∀ e ∈ name, 97 ≤ e.toNat ∧ e.toNat ≤ 122) :
    (cs.map plainDigit).map Char.toLower = name ↔ cs.map Char.toLower = name := by
  induction cs generalizing name with
  | nil => rfl
  | cons c cs ih =>
    cases name with
    | nil => simp
    | cons e name =>
      have hletter := hname e List.mem_cons_self
      have hrest := ih fun f hf => hname f (List.mem_cons_of_mem e hf)
      rw [List.map_cons, List.map_cons, List.map_cons, List.cons.injEq, List.cons.injEq,
        toLower_plainDigit hletter, hrest]

theorem named?_eq (cs : List Char) : named? (cs.map plainDigit) =
    if cs.map Char.toLower = "inf".toList ∨ cs.map Char.toLower = "infinity".toList then
      some (1.0 / 0.0)
    else if cs.map Char.toLower = "nan".toList then some (0.0 / 0.0) else none := by
  have hname (name : String) (h : ∀ e ∈ name.toList, 97 ≤ e.toNat ∧ e.toNat ≤ 122) :
      String.ofList ((cs.map plainDigit).map Char.toLower) = name ↔
      cs.map Char.toLower = name.toList := by
    rw [← map_toLower_plainDigit h]
    constructor
    · rintro rfl
      rw [String.toList_ofList]
    · intro h
      rw [h, String.ofList_toList]
  have hinf := hname "inf" (by simp)
  have hinfinity := hname "infinity" (by simp)
  have hnan := hname "nan" (by simp)
  rw [named?]
  simp only [Bool.or_eq_true, decide_eq_true_eq, hinf, hinfinity, hnan]

theorem named?_of_decimal (h : (decimalValue? c).isSome ∨ c = '.') :
    named? ((c :: cs).map plainDigit) = none := by
  have hfirst (name : String) {e : Char} {rest : List Char} (hname : name.toList = e :: rest)
      (he : 97 ≤ e.toNat ∧ e.toNat ≤ 122) : (c :: cs).map Char.toLower ≠ name.toList := by
    intro heq
    rw [hname, List.map_cons, List.cons.injEq] at heq
    have hcode := Text.toNat_toLower c
    rw [heq.1] at hcode
    rcases h with h | rfl
    · obtain ⟨d, hd⟩ := Option.isSome_iff_exists.mp h
      have hrange := Text.decimalValue?_range hd
      rw [if_neg (by omega)] at hcode
      omega
    · rw [if_neg (by decide)] at hcode
      revert hcode he
      rw [show '.'.toNat = 46 from rfl]
      omega
  rw [named?_eq, if_neg, if_neg]
  · exact hfirst "nan" rfl (by decide)
  · exact not_or.mpr ⟨hfirst "inf" rfl (by decide), hfirst "infinity" rfl (by decide)⟩

theorem unsigned_of_name {name : List Char} (hname : ∀ e ∈ name.head?, 97 ≤ e.toNat)
    (h : cs.map Char.toLower = name) : Unsigned cs := by
  intro c hc
  have hletter := hname c.toLower (by rw [← h, List.head?_map, Option.mem_def.mp hc]; rfl)
  constructor <;>
  · rintro rfl
    revert hletter
    decide

theorem first_of_decimal {whole places : List Char} {ws ps : List Nat} (hwhole : AnyDigits whole ws)
    (hplaces : Places places ps) (hne : ws ++ ps ≠ []) (power : List Char) :
    ∃ c rest, whole ++ (places ++ power) = c :: rest ∧ ((decimalValue? c).isSome ∨ c = '.') := by
  cases hwhole with
  | present h =>
    cases h with
    | of hc _ => exact ⟨_, _, rfl, .inl (by rw [hc, Option.isSome_some])⟩
  | absent =>
    cases hplaces with
    | absent => exact (hne rfl).elim
    | point _ => exact ⟨_, _, rfl, .inr rfl⟩

theorem float?_eq_some {s : String} {x : Float} :
    float? s = some x ↔ NumberText (Text.trimChars isSpace s.toList) x := by
  rw [float?, plain, signed_map]
  generalize Text.trimChars isSpace s.toList = cs
  constructor
  · intro h
    obtain ⟨sign, hsign, hcs⟩ := exists_sign cs
    generalize signed cs = found at h hsign hcs
    obtain ⟨negative, text⟩ := found
    subst hcs
    dsimp only at h
    rw [named?_eq] at h
    by_cases hinf : text.map Char.toLower = "inf".toList ∨ text.map Char.toLower = "infinity".toList
    · rw [if_pos hinf] at h
      cases h
      exact .infinity hsign hinf
    · by_cases hnan : text.map Char.toLower = "nan".toList
      · rw [if_neg hinf, if_pos hnan] at h
        cases h
        exact .nan hsign hnan
      · rw [if_neg hinf, if_neg hnan] at h
        dsimp only at h
        obtain ⟨d, hd, rfl⟩ := Option.map_eq_some_iff.mp h
        obtain ⟨whole, places, power, ws, ps, e, rfl, hwhole, hplaces, hne, hpower, rfl⟩ :=
          decimal?_eq_some.mp hd
        exact .decimal hsign hwhole hplaces hne hpower
  · intro h
    cases h with
    | infinity hsign hname =>
      have hfirst := hname.elim (unsigned_of_name (by simp)) (unsigned_of_name (by simp))
      rw [hsign.signed_append hfirst]
      dsimp only
      rw [named?_eq, if_pos hname]
    | nan hsign hname =>
      rw [hsign.signed_append (unsigned_of_name (by simp) hname)]
      dsimp only
      rw [named?_eq, if_neg (by rw [hname]; simp), if_pos hname]
    | decimal hsign hwhole hplaces hne hpower =>
      rename_i sign whole places power negative ws ps e
      obtain ⟨c, rest, htext, hfirst⟩ := first_of_decimal hwhole hplaces hne power
      have hunsigned : Unsigned (whole ++ (places ++ power)) := by
        rw [htext]
        intro d hd
        cases hd
        constructor <;>
        · rintro rfl
          revert hfirst
          decide
      have hdecimal : decimal? ((whole ++ (places ++ power)).map plainDigit) =
          some ⟨ofDigits (ws ++ ps), e - ps.length⟩ :=
        decimal?_eq_some.mpr ⟨whole, places, power, ws, ps, e, rfl, hwhole, hplaces, hne,
          hpower, rfl⟩
      rw [hsign.signed_append hunsigned]
      dsimp only
      rw [hdecimal, htext, named?_of_decimal hfirst]
      rfl

/-! ### Texts of the numbers themselves -/

theorem digits_of_isDigit (hne : cs ≠ []) (h : ∀ c ∈ cs, c.isDigit) :
    Digits cs (cs.map fun c => c.toNat - '0'.toNat) := by
  obtain ⟨c, cs, rfl⟩ := List.exists_cons_of_ne_nil hne
  have hfurther : FurtherDigits cs (cs.map fun c => c.toNat - '0'.toNat) := by
    induction cs with
    | nil => exact .nil
    | cons e cs ih =>
      have he := h e (by simp)
      refine .next (Text.decimalValue?_of_isDigit he) (ih (List.cons_ne_nil _ _) ?_)
      intro f hf
      exact h f (by rcases List.mem_cons.mp hf with rfl | hf <;> simp [*])
  exact .of (Text.decimalValue?_of_isDigit (h c List.mem_cons_self)) hfurther

theorem digits_decimalChars (n : Nat) : ∃ ds, Digits (decimalChars n) ds ∧
    ds.length = (decimalChars n).length ∧
    ofDigits ds = n := by
  refine ⟨_, digits_of_isDigit (Json.decimalChars_ne_nil n) fun c hc =>
    Json.isDigit_of_mem_decimalChars hc, ?_, ?_⟩
  · exact List.length_map _
  · exact Json.numeral_decimalChars n

theorem length_decimalChars_le {n k : Nat} (hk : 0 < k) : (decimalChars n).length ≤ k ↔
    n < 10 ^ k :=
  Nat.length_toDigits_le_iff (by decide) hk

theorem toList_toString (n : Int) :
    (toString n).toList = (if n < 0 then ['-'] else []) ++ decimalChars n.natAbs := by
  cases n with
  | ofNat n => exact Nat.toList_repr
  | negSucc n =>
    rw [if_pos (Int.negSucc_lt_zero n), Int.natAbs_negSucc, decimalChars, ← Nat.toList_repr]
    exact String.toList_append

theorem integerText_toString {n : Int} (hlimit : n.natAbs < 10 ^ digitLimit) :
    IntegerText (toString n).toList n := by
  obtain ⟨ds, hds, hlength, hvalue⟩ := digits_decimalChars n.natAbs
  have hshort : ds.length ≤ digitLimit := by
    rw [hlength]
    exact (length_decimalChars_le (by decide)).mpr hlimit
  rw [toList_toString]
  split
  · have hn : signedValue true ds = n := by
      rw [signedValue, if_pos rfl, hvalue]
      omega
    have htext := IntegerText.of .minus hds hshort
    rwa [hn] at htext
  · have hn : signedValue false ds = n := by
      rw [signedValue, if_neg Bool.false_ne_true, hvalue]
      omega
    have htext := IntegerText.of .absent hds hshort
    rwa [hn] at htext

theorem strip_toString (n : Int) : Text.strip (toString n) = toString n := by
  have hblanks : ∀ z ∈ Text.blankCodes, z ≠ '-'.toNat ∧ (z < 48 ∨ 57 < z) := by decide
  have hnone : ∀ c ∈ (toString n).toList, Text.isBlank c = false := by
    intro c hc
    rw [← Bool.not_eq_true, Text.isBlank, List.contains_iff_mem]
    intro hblank
    obtain ⟨hminus, hrange⟩ := hblanks _ hblank
    rw [toList_toString, List.mem_append] at hc
    rcases hc with hc | hc
    · split at hc
      · rw [List.mem_singleton] at hc
        exact hminus (congrArg Char.toNat hc)
      · cases hc
    · obtain ⟨hlow, hhigh⟩ : 48 ≤ c.toNat ∧ c.toNat ≤ 57 :=
        Char.isDigit_iff_toNat.mp (Json.isDigit_of_mem_decimalChars hc)
      omega
  rw [Text.strip, Text.trimChars_of_none hnone, String.ofList_toList]

theorem trimChars_strip (s : String) :
    Text.trimChars isSpace (Text.strip s).toList = (Text.strip s).toList := by
  rw [Text.strip, String.toList_ofList]
  refine Text.trimChars_trimChars (fun c hc => ?_) _
  rw [isSpace, Bool.and_eq_true] at hc
  exact hc.1

end Literal
end TextMemory
