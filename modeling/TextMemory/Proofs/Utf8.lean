import Mathlib.Data.String.Basic
import Mathlib.Tactic.IntervalCases
import TextMemory.Text.LineEnd
import TextMemory.Text.Utf8

/-!
# Bytes of texts read back

The bytes of a character are read as that character, whatever follows them: the first one tells how
many there are, and the others lie in the range that it leaves them. So the bytes of a text are read
as the text.
-/
namespace TextMemory.Text

namespace Utf8

variable {taken owed code low high k : Nat} {rest : List UInt8}

theorem follow_next (hk : k < 64) (hlow : low ≤ k + 128) (hhigh : k + 128 ≤ high) :
    follow taken (owed + 1) code low high (UInt8.ofNat (k + 128) :: rest) =
      follow (taken + 1) owed (code * 64 + k) 0x80 0xbf rest := by
  have hbyte : (UInt8.ofNat (k + 128)).toNat = k + 128 :=
    UInt8.toNat_ofNat_of_lt' (show k + 128 < 256 by omega)
  rw [follow, hbyte, if_pos ⟨hlow, hhigh⟩, Nat.add_sub_cancel]

theorem follow_last (hk : k < 64) (hlow : low ≤ k + 128) (hhigh : k + 128 ≤ high) :
    follow taken 1 code low high (UInt8.ofNat (k + 128) :: rest) =
      .char (Char.ofNat (code * 64 + k)) (taken + 1) := by
  rw [follow_next hk hlow hhigh, follow]

theorem lead?_two (hk : 2 ≤ k) (hlast : k < 32) : lead? (k + 192) = some ⟨1, k, 0x80, 0xbf⟩ := by
  rw [lead?, if_neg (by omega), if_neg (by omega), if_pos (by omega), Nat.add_sub_cancel]

theorem lead?_three (hk : k < 16) :
    lead? (k + 224) = some ⟨2, k, if k = 0 then 0xa0 else 0x80, if k = 13 then 0x9f else 0xbf⟩ := by
  interval_cases k <;> rfl

theorem lead?_four (hk : k < 5) :
    lead? (k + 240) = some ⟨3, k, if k = 0 then 0x90 else 0x80, if k = 4 then 0x8f else 0xbf⟩ := by
  interval_cases k <;> rfl

theorem item_of_lead {b : Nat} {l : Lead} (hb : b < 256) (h : lead? b = some l) (bs : List UInt8) :
    item (UInt8.ofNat b) bs = follow 1 l.owed l.code l.low l.high bs := by
  rw [item, UInt8.toNat_ofNat_of_lt' hb, h]

theorem item_encodeChar (c : Char) : ∃ b bs, String.utf8EncodeChar c = b :: bs ∧
    ∀ rest, item b (bs ++ rest) = .char c (bs.length + 1) := by
  have hc : Char.ofNat c.val.toNat = c := Char.ofNat_toNat c
  have hvalid : c.val.toNat < 0xd800 ∨ 0xdfff < c.val.toNat ∧ c.val.toNat < 0x110000 := c.valid
  unfold String.utf8EncodeChar
  dsimp only
  generalize c.val.toNat = n at hc hvalid
  split
  · rename_i hone
    have hlead : lead? n = some ⟨0, n, 0x80, 0xbf⟩ := if_pos (by omega)
    refine ⟨_, _, rfl, fun rest => ?_⟩
    rw [item_of_lead (by omega) hlead, follow, hc]
    rfl
  · split
    · rename_i hone htwo
      have hlead := lead?_two (k := n / 64 % 32) (by omega) (by omega)
      refine ⟨_, _, rfl, fun rest => ?_⟩
      rw [item_of_lead (by omega) hlead, List.cons_append]
      dsimp only
      rw [follow_last (by omega) (by omega) (by omega),
        show n / 64 % 32 * 64 + n % 64 = n by omega, hc]
      rfl
    · split
      · rename_i hone htwo hthree
        have hlead := lead?_three (k := n / 4096 % 16) (by omega)
        refine ⟨_, _, rfl, fun rest => ?_⟩
        rw [item_of_lead (by omega) hlead, List.cons_append, List.cons_append]
        dsimp only
        rw [follow_next (by omega), follow_last (by omega) (by omega) (by omega),
          show (n / 4096 % 16 * 64 + n / 64 % 64) * 64 + n % 64 = n by omega, hc]
        · rfl
        · split <;> omega
        · split <;> omega
      · rename_i hone htwo hthree
        have hlead := lead?_four (k := n / 262144 % 8) (by omega)
        have hn : ((n / 262144 % 8 * 64 + n / 4096 % 64) * 64 + n / 64 % 64) * 64 + n % 64 = n := by
          omega
        refine ⟨_, _, rfl, fun rest => ?_⟩
        rw [item_of_lead (by omega) hlead, List.cons_append, List.cons_append, List.cons_append]
        dsimp only
        rw [follow_next (by omega), follow_next (by omega) (by omega) (by omega),
          follow_last (by omega) (by omega) (by omega), hn, hc]
        · rfl
        · split <;> omega
        · split <;> omega

theorem itemsFrom_skip (bs rest : List UInt8) :
    itemsFrom bs.length (bs ++ rest) = itemsFrom 0 rest := by
  induction bs with
  | nil => rfl
  | cons b bs ih => rw [List.length_cons, List.cons_append, itemsFrom, ih]

theorem itemsFrom_encodeChar (c : Char) (rest : List UInt8) :
    ∃ size bytes, itemsFrom 0 (String.utf8EncodeChar c ++ rest) =
      (.char c size, bytes) :: itemsFrom 0 rest := by
  obtain ⟨b, bs, hbytes, hitem⟩ := item_encodeChar c
  refine ⟨bs.length + 1, b :: (bs ++ rest), ?_⟩
  rw [hbytes, List.cons_append, itemsFrom, hitem, Item.size, Nat.add_sub_cancel, itemsFrom_skip]

theorem mapM_itemsFrom {f : Item × List UInt8 → Except Fault Char}
    (hf : ∀ c size bytes, f (.char c size, bytes) = .ok c) (cs : List Char) :
    (itemsFrom 0 (cs.flatMap String.utf8EncodeChar)).mapM f = .ok cs := by
  induction cs with
  | nil => rfl
  | cons c cs ih =>
    obtain ⟨size, bytes, hitems⟩ := itemsFrom_encodeChar c (cs.flatMap String.utf8EncodeChar)
    rw [List.flatMap_cons, hitems, List.mapM_cons, hf, ih]
    rfl

theorem decode_encode (s : String) : decode (encode s) = .ok s := by
  rw [decode, encode, mapM_itemsFrom fun _ _ _ => rfl]
  exact congrArg Except.ok String.ofList_toList

end Utf8

theorem unifyLineEnds_of_no_return {cs : List Char} (h : '\r' ∉ cs) : unifyLineEnds cs = cs := by
  induction cs with
  | nil => rfl
  | cons c cs ih =>
    have hne : c ≠ '\r' := fun hc => h (hc ▸ List.mem_cons_self)
    have hrest : '\r' ∉ cs := fun hc => h (List.mem_cons_of_mem c hc)
    rw [unifyLineEnds, if_neg hne, ih hrest]
    intro rest hreturn
    exact (hne hreturn).elim

end TextMemory.Text
