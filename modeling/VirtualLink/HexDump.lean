import VirtualLink.Text.Hex

namespace VirtualLink.HexDump

def bytesPerLine : Nat := 16

/-- Lines of sixteen bytes; the last one holds what is left. -/
def lines (bytes : Bytes) : List Bytes :=
  match bytes with
  | [] => []
  | byte :: rest => (byte :: rest.take 15) :: lines (rest.drop 15)
termination_by bytes.length
decreasing_by simp only [List.length_drop, List.length_cons]; omega

/-- Decimal, with zeros in front up to four digits. -/
def offset (n : Nat) : List Char :=
  let digits := Nat.toDigits 10 n
  List.replicate (4 - digits.length) '0' ++ digits

/-- Sixteen columns of three characters, blank beyond the last byte. -/
def columns (line : Bytes) : List Char :=
  line.flatMap (fun byte => Hex.ofByte byte ++ [' ']) ++ List.replicate (3 * (bytesPerLine - line.length)) ' '

/-- A byte of printable ASCII as itself, any other as a dot. -/
def glyph (byte : UInt8) : Char :=
  if 0x20 ≤ byte ∧ byte ≤ 0x7E then Char.ofNat byte.toNat else '.'

def line (start : Nat) (bytes : Bytes) : List Char :=
  offset start ++ [' ', ' '] ++ columns bytes ++ [' '] ++ bytes.map glyph ++ ['\n']

def linesFrom (start : Nat) : List Bytes → List Char
  | [] => []
  | bytes :: rest => line start bytes ++ linesFrom (start + bytesPerLine) rest

/-- The bytes by lines of sixteen: decimal offset, hex columns, and the printable characters among them. -/
def render (bytes : Bytes) : String :=
  String.ofList (linesFrom 0 (lines bytes))

end VirtualLink.HexDump
