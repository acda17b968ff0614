import Mathlib.Data.String.Basic
import TextMemory.Text.Utf8

/-!
# The order of bytes

Texts are in the order of their UTF-8 bytes, since the bytes of a character with a greater code are
behind those of one with a smaller code, whatever follows them.
-/
namespace TextMemory.Text.Utf8

theorem octet_cons_lt {m n : Nat} (hm : m < 256) (hn : n < 256) {xs ys : List UInt8} :
    UInt8.ofNat m :: xs < UInt8.ofNat n :: ys ↔ m < n ∨ (m = n ∧ xs < ys) := by
  rw [List.cons_lt_cons_iff, UInt8.lt_iff_toNat_lt, ← UInt8.toNat_inj, UInt8.toNat_ofNat_of_lt' hm,
    UInt8.toNat_ofNat_of_lt' hn]

theorem utf8EncodeChar_append_lt {c d : Char} (h : c < d) (xs ys : List UInt8) :
    String.utf8EncodeChar c ++ xs < String.utf8EncodeChar d ++ ys := by
  have hcodes : c.val.toNat < d.val.toNat := h
  have hlast : d.val.toNat < 0x110000 := by
    rcases d.valid with hlow | ⟨-, hhigh⟩
    · exact hlow.trans (by decide)
    · exact hhigh
  unfold String.utf8EncodeChar
  dsimp only
  generalize c.val.toNat = m at hcodes ⊢
  generalize d.val.toNat = n at hcodes hlast ⊢
  -- the digits of a code to the base 64, of which the first one is less than 8
  have hdigits : ∀ k : Nat, k < 0x110000 →
      k / 64 / 64 = k / 4096 ∧ k / 4096 / 64 = k / 262144 ∧ k / 262144 % 8 = k / 262144 :=
    fun k hk =>
      ⟨Nat.div_div_eq_div_mul k 64 64, Nat.div_div_eq_div_mul k 4096 64,
        Nat.mod_eq_of_lt (by omega)⟩
  have hm := hdigits m (hcodes.trans hlast)
  have hn := hdigits n hlast
  split_ifs
  all_goals
    simp (disch := omega) only [List.cons_append, List.nil_append, octet_cons_lt]
    omega

theorem flatMap_lt {cs ds : List Char} (h : cs < ds) :
    cs.flatMap String.utf8EncodeChar < ds.flatMap String.utf8EncodeChar := by
  induction h with
  | nil =>
    rename_i d ds
    obtain ⟨octet, octets, hd⟩ := List.exists_cons_of_ne_nil (String.utf8EncodeChar_ne_nil (c := d))
    rw [List.flatMap_nil, List.flatMap_cons, hd]
    exact List.nil_lt_cons _ _
  | rel h => exact utf8EncodeChar_append_lt h _ _
  | cons h ih => exact List.append_left_lt ih

theorem encode_lt {a b : String} (h : a < b) : encode a < encode b :=
  flatMap_lt (String.lt_iff_toList_lt.mp h)

end TextMemory.Text.Utf8
