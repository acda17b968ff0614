import TextMemory.Fault

/-!
# UTF-8

A first byte tells how many bytes follow it and in which range the next one lies. What is refused is
the longest beginning of a character that the bytes show; a reader may stop there or put U+FFFD in
its place.
-/
namespace TextMemory.Text.Utf8

inductive Item
  | char (c : Char) (size : Nat)
  | refused (size : Nat) (reason : String)
deriving DecidableEq, Repr

def Item.size : Item → Nat
  | char _ n => n
  | refused n _ => n

/-- What a first byte announces: the bytes that follow, its own part of the code, and the least and
the greatest next byte. -/
structure Lead where
  owed : Nat
  code : Nat
  low : Nat
  high : Nat
deriving DecidableEq, Repr

def lead? (b : Nat) : Option Lead :=
  if b < 0x80 then some ⟨0, b, 0x80, 0xbf⟩
  else if b < 0xc2 then none
  else if b < 0xe0 then some ⟨1, b - 0xc0, 0x80, 0xbf⟩
  else if b < 0xf0 then
    some ⟨2, b - 0xe0, if b = 0xe0 then 0xa0 else 0x80, if b = 0xed then 0x9f else 0xbf⟩
  else if b < 0xf5 then
    some ⟨3, b - 0xf0, if b = 0xf0 then 0x90 else 0x80, if b = 0xf4 then 0x8f else 0xbf⟩
  else none

def follow (taken : Nat) : Nat → Nat → Nat → Nat → List UInt8 → Item
  | 0, code, _, _, _ => .char (Char.ofNat code) taken
  | _ + 1, _, _, _, [] => .refused taken "unexpected end of data"
  | owed + 1, code, low, high, b :: bs =>
    if low ≤ b.toNat ∧ b.toNat ≤ high then
      follow (taken + 1) owed (code * 64 + (b.toNat - 0x80)) 0x80 0xbf bs
    else .refused taken "invalid continuation byte"

def item (b : UInt8) (bs : List UInt8) : Item :=
  match lead? b.toNat with
  | none => .refused 1 "invalid start byte"
  | some l => follow 1 l.owed l.code l.low l.high bs

def itemsFrom : Nat → List UInt8 → List (Item × List UInt8)
  | _, [] => []
  | skip + 1, _ :: bs => itemsFrom skip bs
  | 0, b :: bs =>
    let i := item b bs
    (i, b :: bs) :: itemsFrom (i.size - 1) bs

def decode (bytes : List UInt8) : Except Fault String := do
  let chars ← (itemsFrom 0 bytes).mapM fun (i, rest) =>
    match i with
    | .char c _ => .ok c
    | .refused size reason =>
      let first := bytes.length - rest.length
      .error (.undecodable ((rest.head?.map UInt8.toNat).getD 0) first (first + size - 1) reason)
  return String.ofList chars

def decodeLossy (bytes : List UInt8) : String :=
  String.ofList <| (itemsFrom 0 bytes).map fun (i, _) =>
    match i with
    | .char c _ => c
    | .refused _ _ => Char.ofNat 0xfffd

def encode (s : String) : List UInt8 := s.toList.flatMap String.utf8EncodeChar

end TextMemory.Text.Utf8
