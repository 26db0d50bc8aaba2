import Mathlib.Data.List.Forall2
import VirtualLink.HexDump
import VirtualLink.Proofs.Numerals
import VirtualLink.Proofs.Printing

namespace VirtualLink

/-! Lines that end. -/

/-- The lines of a text, without the newlines that end them; `none` if the last one is not ended. -/
def endedLines? (text : List Char) : Option (List (List Char)) :=
  let parts := fields '\n' text
  if parts.getLast? = some [] then some parts.dropLast else none

theorem fields_ended {rows : List (List Char)} (free : ∀ row ∈ rows, '\n' ∉ row) :
    fields '\n' (rows.flatMap (· ++ ['\n'])) = rows ++ [[]] := by
  induction rows with
  | nil => rfl
  | cons row rest ih =>
    rw [List.forall_mem_cons] at free
    rw [List.flatMap_cons, List.append_assoc, List.singleton_append, fields_append, fields_of_not_mem free.1, ih free.2]
    rfl

theorem endedLines?_eq_some {rows : List (List Char)} (free : ∀ row ∈ rows, '\n' ∉ row) :
    endedLines? (rows.flatMap (· ++ ['\n'])) = some rows := by
  simp [endedLines?, fields_ended free]

namespace HexDump

variable {bytes chunk : Bytes} {start : Nat}

/-! What a line shows. -/

/-- The hex digits in lower case, by their values. -/
def digits : List Char :=
  "0123456789abcdef".toList

/-- The three columns of a byte: two digits and a blank, or blanks alone where there is no byte. -/
def cell : Option UInt8 → List Char
  | some byte => [digits.getD (byte.toNat / 16) ' ', digits.getD (byte.toNat % 16) ' ', ' ']
  | none => [' ', ' ', ' ']

/-- The character is the byte if that is printable ASCII, and else a dot. -/
def StandsFor (byte : UInt8) (c : Char) : Prop :=
  if 32 ≤ byte.toNat ∧ byte.toNat < 127 then c.toNat = byte.toNat else c = '.'

/-- A line for some bytes from a place on: that place in decimal, in four digits or as many as it needs, two blanks,
the columns of sixteen bytes, one more blank, and a character for each byte that there is. -/
inductive Shows (start : Nat) (chunk : Bytes) : List Char → Prop
  | line {number columns glyphs : List Char} (decimal : Decimal number start) (four : 4 ≤ number.length)
      (needed : 4 < number.length → ¬ Padded number) (width : columns.length = 48)
      (cells : columns = (List.range 16).flatMap fun place => cell chunk[place]?)
      (shown : List.Forall₂ StandsFor chunk glyphs) :
      Shows start chunk (number ++ [' ', ' '] ++ columns ++ [' '] ++ glyphs)

theorem ofByte_eq_cell (byte : UInt8) : Hex.ofByte byte ++ [' '] = cell (some byte) := by
  have each : ∀ n < 16, Nat.digitChar n = digits.getD n ' ' := by decide
  obtain ⟨high, low⟩ := Hex.halves_lt byte
  rw [Hex.ofByte, each _ high, each _ low]
  rfl

theorem length_cell (byte : Option UInt8) : (cell byte).length = 3 := by
  cases byte <;> rfl

theorem columns_eq {count : Nat} (fits : chunk.length ≤ count) :
    chunk.flatMap (fun byte => Hex.ofByte byte ++ [' ']) ++ List.replicate (3 * (count - chunk.length)) ' '
      = (List.range count).flatMap fun place => cell chunk[place]? := by
  induction chunk generalizing count with
  | nil =>
    induction count with
    | zero => rfl
    | succ count ih =>
      simp only [List.flatMap_nil, List.nil_append, List.length_nil, Nat.sub_zero, List.getElem?_nil] at ih ⊢
      rw [List.range_succ, List.flatMap_append, ← ih (Nat.zero_le _), Nat.mul_succ, ← List.replicate_append_replicate]
      rfl
  | cons byte rest ih =>
    obtain ⟨count, rfl⟩ : ∃ fewer, count = fewer + 1 := Nat.exists_eq_add_one.mpr (Nat.zero_lt_of_lt fits)
    have later := ih (Nat.le_of_succ_le_succ fits)
    rw [List.flatMap_cons, List.append_assoc, List.length_cons, Nat.add_sub_add_right, later, ofByte_eq_cell,
      List.range_succ_eq_map, List.flatMap_cons, List.flatMap_map]
    rfl

theorem length_columns (fits : chunk.length ≤ 16) : (columns chunk).length = 48 := by
  rw [columns, bytesPerLine, columns_eq fits, List.length_flatMap]
  simp only [length_cell]
  rfl

theorem glyph_standsFor (byte : UInt8) : StandsFor byte (glyph byte) := by
  have printable : 0x20 ≤ byte ∧ byte ≤ 0x7E ↔ 32 ≤ byte.toNat ∧ byte.toNat < 127 :=
    and_congr UInt8.le_iff_toNat_le (UInt8.le_iff_toNat_le.trans Nat.lt_succ_iff.symm)
  unfold StandsFor glyph
  split
  · rename_i visible
    have valid : byte.toNat.isValidChar := .inl (by omega)
    rw [if_pos (printable.mpr visible), Char.ofNat, dif_pos valid]
    rfl
  · rename_i invisible
    exact if_neg (mt printable.mp invisible)

/-- A line without the newline behind it. -/
def row (start : Nat) (chunk : Bytes) : List Char :=
  offset start ++ [' ', ' '] ++ columns chunk ++ [' '] ++ chunk.map glyph

theorem shows_row (start : Nat) (fits : chunk.length ≤ 16) : Shows start chunk (row start chunk) := by
  have width : (offset start).length = max 4 (Nat.toDigits 10 start).length := by
    simp only [offset, List.length_append, List.length_replicate]
    omega
  refine .line ⟨_, rfl⟩ ?_ ?_ (length_columns fits) (columns_eq fits) ?_
  · omega
  · intro long
    have none : 4 - (Nat.toDigits 10 start).length = 0 := by omega
    rw [offset, none]
    exact not_padded_toDigits start
  · rw [List.forall₂_map_right_iff]
    exact List.forall₂_same.mpr fun byte _ => glyph_standsFor byte

example : row 96 (utf8 "16 bytes\n")
    = "0096  31 36 20 62 79 74 65 73 0a                       16 bytes.".toList := by decide

/-! The bytes cut into lines. -/

/-- The bytes of one line. -/
def chunkAt (bytes : Bytes) (place : Nat) : Bytes :=
  (bytes.drop (16 * place)).take 16

theorem chunkAt_succ (bytes : Bytes) (place : Nat) : chunkAt bytes (place + 1) = chunkAt (bytes.drop 16) place := by
  rw [chunkAt, chunkAt, List.drop_drop, Nat.mul_succ, Nat.add_comm]

theorem lines_eq_map (bytes : Bytes) : lines bytes = (List.range ((bytes.length + 15) / 16)).map (chunkAt bytes) := by
  induction bytes using lines.induct with
  | case1 => rw [lines]; rfl
  | case2 byte rest ih =>
    have count : ((byte :: rest).length + 15) / 16 = ((rest.drop 15).length + 15) / 16 + 1 := by
      rw [List.length_cons, List.length_drop]
      omega
    have later : chunkAt (byte :: rest) ∘ Nat.succ = chunkAt (rest.drop 15) :=
      funext fun place => chunkAt_succ (byte :: rest) place
    rw [lines, ih, count, List.range_succ_eq_map, List.map_cons, List.map_map, later]
    rfl

theorem flatten_lines (bytes : Bytes) : (lines bytes).flatten = bytes := by
  induction bytes using lines.induct with
  | case1 => rw [lines]; rfl
  | case2 byte rest ih => rw [lines, List.flatten_cons, ih, List.cons_append, List.take_append_drop]

theorem linesFrom_map (start count : Nat) (f : Nat → Bytes) :
    linesFrom start ((List.range count).map f)
      = ((List.range count).map fun place => row (start + 16 * place) (f place)).flatMap (· ++ ['\n']) := by
  induction count generalizing start f with
  | zero => rfl
  | succ count ih =>
    have later : (fun place => row (start + 16 * place) (f place)) ∘ Nat.succ
        = fun place => row (start + bytesPerLine + 16 * place) ((f ∘ Nat.succ) place) := by
      funext place
      have shift : start + 16 * (place + 1) = start + bytesPerLine + 16 * place := by
        rw [bytesPerLine]
        omega
      exact congrArg (row · _) shift
    rw [List.range_succ_eq_map, List.map_cons, List.map_map, linesFrom, ih, List.map_cons, List.map_map, later,
      List.flatMap_cons]
    rfl

theorem toList_render (bytes : Bytes) :
    (render bytes).toList
      = ((List.range ((bytes.length + 15) / 16)).map fun place => row (16 * place) (chunkAt bytes place)).flatMap
          (· ++ ['\n']) := by
  rw [render, String.toList_ofList, lines_eq_map, linesFrom_map]
  simp only [Nat.zero_add]

/-! Reading a dump. -/

/-- The bytes in the columns of a line: three columns for each, and nothing in those that are blank. -/
def readColumns : List Char → Option Bytes
  | high :: low :: mark :: rest =>
    if [high, low, mark] = cell none then readColumns rest
    else do
      let n ← Hex.number? [high, low]
      let more ← readColumns rest
      return UInt8.ofNat n :: more
  | _ => some []

/-- The bytes of a line, read from its hex columns alone. -/
def readRow (row : List Char) : Option Bytes :=
  readColumns (((row.dropWhile Char.isDigit).drop 2).take 48)

/-- The bytes of all lines. -/
def read? (text : String) : Option Bytes := do
  let rows ← endedLines? text.toList
  let chunks ← rows.mapM readRow
  return chunks.flatten

theorem readColumns_blank (count : Nat) : readColumns (List.replicate (3 * count) ' ') = some [] := by
  induction count with
  | zero => rfl
  | succ count ih =>
    have front : List.replicate (3 * (count + 1)) ' ' = ' ' :: ' ' :: ' ' :: List.replicate (3 * count) ' ' := rfl
    have blank : [' ', ' ', ' '] = cell none := rfl
    rw [front, readColumns, if_pos blank, ih]

theorem number?_ofByte (byte : UInt8) : Hex.number? (Hex.ofByte byte) = some byte.toNat := by
  obtain ⟨high, low⟩ := Hex.halves_lt byte
  refine Hex.number?_pair_eq_some_iff.mpr ⟨_, _, Hex.value?_digitChar high, Hex.value?_digitChar low, ?_⟩
  omega

theorem readColumns_byte (byte : UInt8) (rest : List Char) :
    readColumns (Hex.ofByte byte ++ [' '] ++ rest) = (readColumns rest).map (byte :: ·) := by
  have given : Hex.ofByte byte ++ [' '] ≠ cell none := by
    intro (blank : Hex.ofByte byte ++ [' '] = [' ', ' '] ++ [' '])
    have member : ' ' ∈ Hex.ofByte byte := List.append_cancel_right blank ▸ List.mem_cons_self ..
    exact Hex.not_mem_ofByte (by decide) byte member
  have value := number?_ofByte byte
  have back : UInt8.ofNat byte.toNat = byte := UInt8.ofNat_toNat
  unfold Hex.ofByte at given value ⊢
  simp only [List.cons_append, List.nil_append] at given ⊢
  rw [readColumns, if_neg given, value]
  cases readColumns rest with
  | none => rfl
  | some more => exact congrArg (some <| · :: more) back

theorem readColumns_columns (chunk : Bytes) (count : Nat) :
    readColumns (chunk.flatMap (fun byte => Hex.ofByte byte ++ [' ']) ++ List.replicate (3 * count) ' ')
      = some chunk := by
  induction chunk with
  | nil => exact readColumns_blank count
  | cons byte rest ih => rw [List.flatMap_cons, List.append_assoc, readColumns_byte, ih, Option.map_some]

/-- What a line shows in its hex columns are its bytes. -/
theorem Shows.readRow {row : List Char} (shows : Shows start chunk row) (fits : chunk.length ≤ 16) :
    readRow row = some chunk := by
  obtain @⟨number, columns, glyphs, decimal, -, -, width, cells, -⟩ := shows
  have digits : ∀ c ∈ number, c.isDigit = true := (decimal_iff.mp decimal).2.1
  have front : (number ++ [' ', ' '] ++ columns ++ [' '] ++ glyphs).dropWhile Char.isDigit
      = ' ' :: ' ' :: (columns ++ ([' '] ++ glyphs)) := by
    simp only [List.append_assoc]
    rw [List.dropWhile_append_of_pos digits]
    rfl
  rw [HexDump.readRow, front]
  change readColumns ((columns ++ ([' '] ++ glyphs)).take 48) = some chunk
  rw [List.take_left' width, cells, ← columns_eq fits]
  exact readColumns_columns chunk _

theorem newline_not_mem_cell (byte : Option UInt8) : '\n' ∉ cell byte := by
  cases byte with
  | none => decide
  | some byte =>
    rw [← ofByte_eq_cell, List.mem_append, not_or]
    exact ⟨Hex.not_mem_ofByte (by decide) byte, by decide⟩

theorem newline_not_standsFor (byte : UInt8) : ¬ StandsFor byte '\n' := by
  unfold StandsFor
  have newline : '\n'.toNat = 10 := rfl
  split
  · omega
  · decide

theorem newline_not_mem_glyphs {glyphs : List Char} (shown : List.Forall₂ StandsFor chunk glyphs) : '\n' ∉ glyphs := by
  induction shown with
  | nil => exact List.not_mem_nil
  | @cons byte c _ _ stands _ ih =>
    rw [List.mem_cons, not_or]
    refine ⟨?_, ih⟩
    rintro rfl
    exact newline_not_standsFor byte stands

/-- No line breaks off before its end. -/
theorem Shows.newline_not_mem {row : List Char} (shows : Shows start chunk row) : '\n' ∉ row := by
  obtain @⟨number, _, glyphs, decimal, -, -, -, rfl, shown⟩ := shows
  have digits : '\n' ∉ number := by
    intro member
    exact absurd ((decimal_iff.mp decimal).2.1 _ member) (by decide)
  have cells : '\n' ∉ (List.range 16).flatMap fun place => cell chunk[place]? := by
    intro member
    obtain ⟨place, -, inside⟩ := List.mem_flatMap.mp member
    exact newline_not_mem_cell _ inside
  simp [digits, cells, newline_not_mem_glyphs shown]

theorem endedLines?_render (bytes : Bytes) :
    endedLines? (render bytes).toList
      = some ((List.range ((bytes.length + 15) / 16)).map fun place => row (16 * place) (chunkAt bytes place)) := by
  rw [toList_render]
  refine endedLines?_eq_some fun line among => ?_
  obtain ⟨place, -, rfl⟩ := List.mem_map.mp among
  exact (shows_row _ (List.length_take_le ..)).newline_not_mem

theorem read?_render (bytes : Bytes) : read? (render bytes) = some bytes := by
  have each : (readRow ∘ fun place => row (16 * place) (chunkAt bytes place))
      = fun place => pure (chunkAt bytes place) := by
    funext place
    have fits : (chunkAt bytes place).length ≤ 16 := List.length_take_le ..
    rw [Function.comp_apply, (shows_row _ fits).readRow fits, Option.pure_def]
  rw [read?, endedLines?_render, Option.bind_eq_bind, Option.bind_some, List.mapM_map, each, List.mapM_pure,
    ← lines_eq_map]
  exact congrArg some (flatten_lines bytes)

/-- A dump has a line for every sixteen bytes and one for those that are left, and each line shows its place and its
bytes. The bytes can be read back from the hex columns of the lines, so that no two strings of bytes have the same
dump. -/
theorem dump_loses_nothing :
    (∀ bytes, ∃ rowAt : Nat → List Char,
        endedLines? (render bytes).toList = some ((List.range ((bytes.length + 15) / 16)).map rowAt)
          ∧ ∀ place, Shows (16 * place) ((bytes.drop (16 * place)).take 16) (rowAt place))
      ∧ (∀ bytes, read? (render bytes) = some bytes)
      ∧ Function.Injective render := by
  refine ⟨fun bytes => ⟨fun place => row (16 * place) (chunkAt bytes place), ?_, fun place => ?_⟩, read?_render, ?_⟩
  · exact endedLines?_render bytes
  · exact shows_row _ (List.length_take_le ..)
  · intro bytes other same
    have again := congrArg read? same
    rw [read?_render, read?_render] at again
    exact Option.some.inj again

end HexDump

end VirtualLink
