import TextMemory.Fault

/-!
# The header of a database's file

The first hundred bytes of a file tell what it is and how large its pages are; the first page's list
of cells follows. A file that is too short is read as if zeros followed. Numbers are written from
their greatest byte on.
-/
namespace TextMemory.Pages.Header

def written (size n : Nat) : List UInt8 :=
  (List.range size).reverse.map fun i => UInt8.ofNat (n >>> (8 * i))

def number (bytes : List UInt8) (place size : Nat) : Nat :=
  (List.range size).foldl (fun n i => n * 256 + (bytes.getD (place + i) 0).toNat) 0

def magic : List UInt8 := [83, 81, 76, 105, 116, 101, 32, 102, 111, 114, 109, 97, 116, 32, 51, 0]

def wide (instead n : Nat) : Nat := if n = instead then 65536 else n

def pageSizes : List Nat := [512, 1024, 2048, 4096, 8192, 16384, 32768, 65536]

def pagesTold (bytes : List UInt8) (found : Nat) : Nat :=
  let told := number bytes 28 4
  if told = 0 || number bytes 24 4 ≠ number bytes 92 4 then found else told

def isBlankPage (bytes : List UInt8) (usable : Nat) : Bool :=
  let free := number bytes 107 1 + wide 0 (number bytes 105 2)
  number bytes 100 1 = 13 && number bytes 101 4 = 0 && 108 ≤ free && free ≤ usable

/-- A database can be made of a file that is one already, without any table. -/
def check (bytes : List UInt8) : Except Fault Unit := do
  let size := wide 1 (number bytes 16 2)
  let usable := size - number bytes 20 1
  let found := (bytes.length + size - 1) / size
  let pages := pagesTold bytes found
  if bytes.take 16 != magic || 2 < number bytes 19 1 || number bytes 21 3 ≠ 0x402020 ||
      !pageSizes.contains size then
    throw .notDatabase
  if found < pages then throw .malformedDatabase
  if usable < 480 then throw .notDatabase
  if 2 < number bytes 18 1 then throw .readOnly
  if 4 < number bytes 47 1 then throw .fileFormat
  if !isBlankPage bytes usable || number bytes 36 4 ≠ 0 || pages < number bytes 52 4 then
    throw .malformedDatabase

end TextMemory.Pages.Header
