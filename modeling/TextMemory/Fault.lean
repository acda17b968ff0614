import TextMemory.Text.Quoted

/-!
# Faults

Why an operation fails, one constructor for each cause, and the wording of each.
-/
namespace TextMemory

inductive Fault
  | chunkSize (size : Int)
  | chunkOverlap (overlap size : Int)
  | overlapCount
  | rankConstant (k : Int)
  | integerTooLarge
  | quotientTooLarge
  | resultCount (n : Int)
  | blankContent
  | dimensions (n : Int)
  | mismatch (what : String) (expected actual : Int)
  | emptyChunk (index source : String)
  | foreignChunk (found source : String)
  | storedInteger
  | unsupportedValue (position : Nat) (kind : String)
  | duplicateKey (columns : List String)
  | missingValue (column : String)
  | unknownColumn (column : String)
  | columnType
  | noColumns
  | noIdLeft
  | widthType
  | notWidths (kind : String)
  | unhashable (kind : String)
  | patternTooLong
  | noTable
  | cannotOpen
  | notDatabase
  | malformedDatabase
  | fileFormat
  | readOnly
  | lockOrder
  | diskFailure
  | fileExists (path : String)
  | notFolder (path : String)
  | noFile (path : String)
  | isFolder (path : String)
  | nameTooLong (path : String)
  | nulInPath
  | malformedJson (what : String) (position line column : Nat)
  | digitLimit (digits : Nat)
  | jsonDepth (what : String)
  | raggedGrid (shape : List Nat)
  | deepGrid (deepest : Nat)
  | flatGrid
  | vectorWidth (expected actual : Nat)
  | shapes (first second : List Nat)
  | deepDistances
  | numberText (text : String)
  | numberKind (kind : String)
  | timestampText (text : String)
  | timestampField (what : String)
  | embedding (message : String)
  | notOne (found : Nat)
  | cancelled (message : String)
  | apiKey
  | backendSetting (name : String)
  | backend (name : String)
  | integerText (text : String)
  | notANumber
  | infinite
  | notNumeric (kind : String)
  | noMember (kind member : String)
  | requiredField (name : String)
  | undecodable (byte : Nat) (first last : Nat) (reason : String)
  | logLevel (name : String)
deriving DecidableEq, Repr

namespace Fault

def place (position line column : Nat) : String :=
  s!"line {line} column {column} (char {position})"

def undecodableText (byte first last : Nat) (reason : String) : String :=
  if first = last then
    "'utf-8' codec can't decode byte 0x" ++ String.ofList (Text.hex 2 byte) ++
      s!" in position {first}: {reason}"
  else s!"'utf-8' codec can't decode bytes in position {first}-{last}: {reason}"

def clipped (n : Nat) (s : String) : String := String.ofList ((Text.quoted s).toList.take n)

def lengthsText (comma : String) (ns : List Nat) : String :=
  "(" ++ comma.intercalate (ns.map toString) ++ (if ns.length = 1 then ",)" else ")")

def message : Fault → String
  | chunkSize n => s!"chunk_size must be positive, got {n}"
  | chunkOverlap o n => s!"overlap must be in [0, chunk_size), got {o} for chunk_size {n}"
  | overlapCount => "overlap list must match the number of chunks"
  | rankConstant k => s!"rrf_k must be non-negative, got {k}"
  | integerTooLarge => "int too large to convert to float"
  | quotientTooLarge => "integer division result too large for a float"
  | resultCount n => s!"max_results must be at least 1, got {n}"
  | blankContent => "content must not be empty"
  | dimensions n => s!"dimensions must be positive, got {n}"
  | mismatch what expected actual => s!"{what} has dimensionality {actual}, expected {expected}"
  | emptyChunk i source => s!"chunk {i} of {Text.quoted source} has empty content"
  | foreignChunk found source =>
    s!"chunk for {Text.quoted found} passed to replace_source({Text.quoted source})"
  | storedInteger => "Python int too large to convert to SQLite INTEGER"
  | unsupportedValue n kind => s!"Error binding parameter {n}: type '{kind}' is not supported"
  | duplicateKey columns =>
    "UNIQUE constraint failed: " ++ ", ".intercalate (columns.map ("memory_chunks." ++ ·))
  | missingValue column => s!"NOT NULL constraint failed: memory_chunks.{column}"
  | unknownColumn column => s!"table memory_chunks has no column named {column}"
  | columnType => "datatype mismatch"
  | noColumns => "near \")\": syntax error"
  | noIdLeft => "cannot rollback - no transaction is active"
  | widthType => "slice indices must be integers or None or have an __index__ method"
  | notWidths kind => s!"'{kind}' object is not iterable"
  | unhashable kind => s!"unhashable type: '{kind}'"
  | patternTooLong => "LIKE or GLOB pattern too complex"
  | noTable => "no such table: memory_chunks"
  | cannotOpen => "unable to open database file"
  | notDatabase => "file is not a database"
  | malformedDatabase => "database disk image is malformed"
  | fileFormat => "unsupported file format"
  | readOnly => "attempt to write a readonly database"
  | lockOrder => "locking protocol"
  | diskFailure => "disk I/O error"
  | fileExists path => s!"[Errno 17] File exists: {Text.quoted path}"
  | notFolder path => s!"[Errno 20] Not a directory: {Text.quoted path}"
  | noFile path => s!"[Errno 2] No such file or directory: {Text.quoted path}"
  | isFolder path => s!"[Errno 21] Is a directory: {Text.quoted path}"
  | nameTooLong path => s!"[Errno 36] File name too long: {Text.quoted path}"
  | nulInPath => "embedded null byte"
  | malformedJson what position line column => s!"{what}: {place position line column}"
  | digitLimit n => "Exceeds the limit (4300 digits) for integer string conversion: value has " ++
      s!"{n} digits; use sys.set_int_max_str_digits() to increase the limit"
  | jsonDepth what =>
    s!"maximum recursion depth exceeded while decoding a JSON {what} from a unicode string"
  | raggedGrid shape => "setting an array element with a sequence. The requested array has an " ++
      s!"inhomogeneous shape after {shape.length} dimensions. The detected shape was " ++
      lengthsText ", " shape ++ " + inhomogeneous part."
  | deepGrid deepest => "setting an array element with a sequence. The requested array would " ++
      s!"exceed the maximum number of dimension of {deepest}."
  | flatGrid => "axis 1 is out of bounds for array of dimension 1"
  | vectorWidth expected actual =>
      "matmul: Input operand 1 has a mismatch in its core dimension 0, with gufunc signature " ++
      "(n?,k),(k,m?)->(n?,m?) (size " ++
      s!"{actual} is different from {expected})"
  | shapes first second => "operands could not be broadcast together with shapes " ++
      lengthsText "," first ++ " " ++ lengthsText "," second ++ " "
  | deepDistances => "only integer scalar arrays can be converted to a scalar index"
  | numberText text => s!"could not convert string to float: {Text.quoted text}"
  | numberKind kind => s!"float() argument must be a string or a real number, not '{kind}'"
  | timestampText text => s!"Invalid isoformat string: {Text.quoted text}"
  | timestampField what => what
  | embedding text => text
  | notOne found =>
    if found = 0 then "not enough values to unpack (expected 1, got 0)"
    else "too many values to unpack (expected 1)"
  | cancelled text => text
  | apiKey => "Set OPENAI_API_KEY"
  | backendSetting name =>
    s!"Unknown embedding backend: {Text.quoted name} (expected fastembed or openai)"
  | backend name => s!"Unknown embedding backend: {Text.quoted name}"
  | integerText text => s!"invalid literal for int() with base 10: {clipped 200 text}"
  | notANumber => "cannot convert float NaN to integer"
  | infinite => "cannot convert float infinity to integer"
  | notNumeric kind => "int() argument must be a string, a bytes-like object or a real number, " ++
      s!"not '{kind}'"
  | noMember kind member => s!"'{kind}' object has no attribute '{member}'"
  | requiredField name => s!"{name} is required"
  | undecodable byte first last reason => undecodableText byte first last reason
  | logLevel name => s!"Unknown level: {Text.quoted name}"

def isRejection : Fault → Bool
  | chunkSize _ | chunkOverlap .. | overlapCount | rankConstant _ | resultCount _ => true
  | blankContent | dimensions _ | mismatch .. | emptyChunk .. | foreignChunk .. => true
  | nulInPath | malformedJson .. | digitLimit _ | raggedGrid _ | deepGrid _ | flatGrid => true
  | vectorWidth .. | shapes .. | numberText _ | timestampText _ | timestampField _ => true
  | backendSetting _ | backend _ | integerText _ | notANumber | requiredField _ => true
  | undecodable .. | logLevel _ | notOne _ => true
  | _ => false

end Fault
end TextMemory
