import Multidrop.Basic
import Multidrop.Command.Basic
import Multidrop.Floating
import Multidrop.Node.Config
import Multidrop.Text
import Multidrop.Value

/-!
# Output

What commands write: tables that line up on a display, JSON, and the results of each command in the
format asked for.
-/
namespace Multidrop.Text

/-! ## Display width

How many columns of a fixed-pitch display text takes. East Asian wide characters take two columns,
marks that are drawn over the character before them take none, and all others take one. -/

/-- The ranges of wide characters, each with its first and last code point. -/
def wideRanges : List (Nat × Nat) :=
  [(0x1100, 0x115f), (0x231a, 0x231b), (0x2329, 0x232a), (0x23e9, 0x23ec), (0x23f0, 0x23f0),
    (0x23f3, 0x23f3), (0x25fd, 0x25fe), (0x2614, 0x2615), (0x2630, 0x2637), (0x2648, 0x2653),
    (0x267f, 0x267f), (0x268a, 0x268f), (0x2693, 0x2693), (0x26a1, 0x26a1), (0x26aa, 0x26ab),
    (0x26bd, 0x26be), (0x26c4, 0x26c5), (0x26ce, 0x26ce), (0x26d4, 0x26d4), (0x26ea, 0x26ea),
    (0x26f2, 0x26f3), (0x26f5, 0x26f5), (0x26fa, 0x26fa), (0x26fd, 0x26fd), (0x2705, 0x2705),
    (0x270a, 0x270b), (0x2728, 0x2728), (0x274c, 0x274c), (0x274e, 0x274e), (0x2753, 0x2755),
    (0x2757, 0x2757), (0x2795, 0x2797), (0x27b0, 0x27b0), (0x27bf, 0x27bf), (0x2b1b, 0x2b1c),
    (0x2b50, 0x2b50), (0x2b55, 0x2b55), (0x2e80, 0x2e99), (0x2e9b, 0x2ef3), (0x2f00, 0x2fd5),
    (0x2ff0, 0x3029), (0x302e, 0x303e), (0x3041, 0x3096), (0x309b, 0x30ff), (0x3105, 0x312f),
    (0x3131, 0x318e), (0x3190, 0x31e5), (0x31ef, 0x321e), (0x3220, 0x3247), (0x3250, 0xa48c),
    (0xa490, 0xa4c6), (0xa960, 0xa97c), (0xac00, 0xd7a3), (0xf900, 0xfaff), (0xfe10, 0xfe19),
    (0xfe30, 0xfe52), (0xfe54, 0xfe66), (0xfe68, 0xfe6b), (0xff01, 0xff60), (0xffe0, 0xffe6),
    (0x16fe0, 0x16fe3), (0x16ff0, 0x16ff1), (0x17000, 0x187f7), (0x18800, 0x18cd5),
    (0x18cff, 0x18d08), (0x1aff0, 0x1aff3), (0x1aff5, 0x1affb), (0x1affd, 0x1affe),
    (0x1b000, 0x1b122), (0x1b132, 0x1b132), (0x1b150, 0x1b152), (0x1b155, 0x1b155),
    (0x1b164, 0x1b167), (0x1b170, 0x1b2fb), (0x1d300, 0x1d356), (0x1d360, 0x1d376),
    (0x1f004, 0x1f004), (0x1f0cf, 0x1f0cf), (0x1f18e, 0x1f18e), (0x1f191, 0x1f19a),
    (0x1f200, 0x1f202), (0x1f210, 0x1f23b), (0x1f240, 0x1f248), (0x1f250, 0x1f251),
    (0x1f260, 0x1f265), (0x1f300, 0x1f320), (0x1f32d, 0x1f335), (0x1f337, 0x1f37c),
    (0x1f37e, 0x1f393), (0x1f3a0, 0x1f3ca), (0x1f3cf, 0x1f3d3), (0x1f3e0, 0x1f3f0),
    (0x1f3f4, 0x1f3f4), (0x1f3f8, 0x1f43e), (0x1f440, 0x1f440), (0x1f442, 0x1f4fc),
    (0x1f4ff, 0x1f53d), (0x1f54b, 0x1f54e), (0x1f550, 0x1f567), (0x1f57a, 0x1f57a),
    (0x1f595, 0x1f596), (0x1f5a4, 0x1f5a4), (0x1f5fb, 0x1f64f), (0x1f680, 0x1f6c5),
    (0x1f6cc, 0x1f6cc), (0x1f6d0, 0x1f6d2), (0x1f6d5, 0x1f6d7), (0x1f6dc, 0x1f6df),
    (0x1f6eb, 0x1f6ec), (0x1f6f4, 0x1f6fc), (0x1f7e0, 0x1f7eb), (0x1f7f0, 0x1f7f0),
    (0x1f90c, 0x1f93a), (0x1f93c, 0x1f945), (0x1f947, 0x1f9ff), (0x1fa70, 0x1fa7c),
    (0x1fa80, 0x1fa89), (0x1fa8f, 0x1fac6), (0x1face, 0x1fadc), (0x1fadf, 0x1fae9),
    (0x1faf0, 0x1faf8), (0x20000, 0x2fffd), (0x30000, 0x3fffd)]

/-- The ranges of marks without a width, each with its first and last code point. -/
def markRanges : List (Nat × Nat) :=
  [(0xad, 0xad), (0x300, 0x36f), (0x483, 0x489), (0x591, 0x5bd), (0x5bf, 0x5bf), (0x5c1, 0x5c2),
    (0x5c4, 0x5c5), (0x5c7, 0x5c7), (0x610, 0x61a), (0x64b, 0x65f), (0x670, 0x670),
    (0x6d6, 0x6dc), (0x6df, 0x6e4), (0x6e7, 0x6e8), (0x6ea, 0x6ed), (0x93c, 0x93c),
    (0x941, 0x948), (0x94d, 0x94d), (0xe31, 0xe31), (0xe34, 0xe3a), (0xe47, 0xe4e),
    (0x1160, 0x11ff), (0x1ab0, 0x1ace), (0x1dc0, 0x1dff), (0x200b, 0x200f), (0x202a, 0x202e),
    (0x2060, 0x2064), (0x20d0, 0x20f0), (0x302a, 0x302d), (0x3099, 0x309a), (0xfe00, 0xfe0f),
    (0xfe20, 0xfe2f), (0xfeff, 0xfeff), (0xe0100, 0xe01ef)]

/-- Whether a character is in one of some ranges. -/
def inRanges (ranges : List (Nat × Nat)) (character : Char) : Bool :=
  ranges.any fun (first, last) => first ≤ character.toNat && character.toNat ≤ last

/-- The columns of a character. -/
def columnsOf (character : Char) : Nat :=
  if inRanges wideRanges character then 2 else if inRanges markRanges character then 0 else 1

/-- The columns of a text. -/
def columns (text : String) : Nat := total columnsOf text.toList

/-! ## Tables

Tables drawn with box characters. A column is as wide as its widest line, with a blank on either
side, and a cell with line breaks takes several lines. -/

/-- The four characters of a border line: its ends, its body and its crossings. -/
structure Border where
  left : Char
  body : Char
  crossing : Char
  right : Char
  deriving Repr, DecidableEq

namespace Border

/-- The line above a table. -/
def top : Border := ⟨'┌', '─', '┬', '┐'⟩

/-- The line below the headings. -/
def heading : Border := ⟨'╞', '═', '╪', '╡'⟩

/-- The line between two rows. -/
def between : Border := ⟨'├', '╌', '┼', '┤'⟩

/-- The line below a table. -/
def bottom : Border := ⟨'└', '─', '┴', '┘'⟩

end Border

/-- Pieces with a character between each two of them. -/
def joined (separator : Char) (pieces : List String) : String :=
  (String.singleton separator).intercalate pieces

/-- A border line over columns of given widths. -/
def Border.line (border : Border) (widths : List Nat) : String :=
  let bodies := widths.map fun width => String.ofList (List.replicate (width + 2) border.body)
  String.singleton border.left ++ joined border.crossing bodies ++ String.singleton border.right

/-- The lines of a cell. -/
def cellLines (cell : String) : List String := cell.splitOn "\n"

/-- The widest line of a cell. -/
def cellWidth (cell : String) : Nat := ((cellLines cell).map columns).foldl max 0

/-- A line of a cell, filled up to a width and with a blank on either side. -/
def padded (width : Nat) (text : String) : String :=
  " " ++ text ++ String.ofList (List.replicate (width - columns text + 1) ' ')

/-- The lines of a row, over columns of given widths. -/
def rowLines (widths : List Nat) (cells : List String) : List String :=
  let lines := cells.map cellLines
  let height := (lines.map List.length).foldl max 0
  (List.range height).map fun place =>
    let parts := widths.zipWith (fun width cell => padded width (cell.getD place "")) lines
    "│" ++ joined '┆' parts ++ "│"

/-- The widths of columns that hold all cells of some rows. -/
def columnWidths (rows : List (List String)) : List Nat :=
  (rows.map fun cells => cells.map cellWidth).foldl
    (fun widths row =>
      if widths.isEmpty then row else widths.zipWith max row) []

/-- A table with headings. -/
def table (headings : List String) (rows : List (List String)) : String :=
  let widths := columnWidths (headings :: rows)
  let body := (rows.map (rowLines widths)).intersperse [Border.between.line widths]
  "\n".intercalate <|
    Border.top.line widths :: rowLines widths headings ++ Border.heading.line widths ::
      body.flatten ++ [Border.bottom.line widths]

end Multidrop.Text

/-! ## JSON text

Values written as JSON on one line, fields in the order given. Strings are escaped only where they
have to be, and a float is written as the shortest decimal of the same number in 64 bits. -/

namespace Multidrop.Json

/-- The text of a character in a string. -/
def escaped : Char → List Char
  | '"' => ['\\', '"']
  | '\\' => ['\\', '\\']
  | '\x08' => ['\\', 'b']
  | '\x0c' => ['\\', 'f']
  | '\n' => ['\\', 'n']
  | '\r' => ['\\', 'r']
  | '\t' => ['\\', 't']
  | character =>
    if character.toNat < 0x20 then '\\' :: 'u' :: (Text.hexDigits 4 character.toNat).toList
    else [character]

/-- A string. -/
def string (text : String) : String :=
  "\"" ++ String.ofList (text.toList.flatMap escaped) ++ "\""

/-- A list of written values. -/
def list (items : List String) : String := "[" ++ ",".intercalate items ++ "]"

/-- An object of fields with written values. -/
def object (fields : List (String × String)) : String :=
  "\x7b" ++ ",".intercalate (fields.map fun (name, value) => string name ++ ":" ++ value) ++ "\x7d"

/-- The word of 64 bits with the number of a word of 32 bits. -/
def widened (word : UInt32) : Option Nat :=
  match Floating.binary32.decode word.toNat with
  | .nan | .infinite _ => none
  | .finite negative units =>
    some (Floating.binary64.signed negative
      (Floating.binary64.nearest units Floating.binary32.one))

/-- A value. What is not a finite number is written as nothing. -/
def value : Value → String
  | .int8 value => Text.integer value.toInt
  | .int16 value => Text.integer value.toInt
  | .int32 value => Text.integer value.toInt
  | .float word => ((widened word).bind Floating.binary64.interchange?).getD "null"

end Multidrop.Json

/-! ## Results of commands

The bytes that a command writes when it succeeds, in each of the formats. -/

namespace Multidrop.Command

/-- The bytes of lines, each with its end. -/
def lines (texts : List String) : List UInt8 :=
  (texts.flatMap fun text => text.toUTF8.toList ++ [0x0a])

/-- The fields of a line of named values. -/
def namedValues (fields : List (String × String)) : String :=
  " ".intercalate (fields.map fun (name, value) => name ++ "=" ++ value)

/-- A register with the value that was read from it. -/
abbrev Row := Register × Value

/-- Values read from registers. -/
def readOutput (format : OutputFormat) (node : UInt8) (rows : List Row) : List UInt8 :=
  let node := toString node.toNat
  match format with
  | .json =>
    let registers := rows.map fun (register, value) =>
      Json.object [("register", toString register.toNat), ("kind", Json.string value.kind.name),
        ("value", Json.value value)]
    lines [Json.object [("node", node), ("registers", Json.list registers)]]
  | .table =>
    lines [Text.table ["NODE", "REGISTER", "KIND", "VALUE"] (rows.map fun (register, value) =>
      [node, Text.hex 1 register.toNat, value.kind.name, value.text])]
  | .pretty =>
    lines (rows.map fun (register, value) =>
      namedValues [("node", node), ("register", Text.hex 1 register.toNat),
        (value.kind.name, value.text)])
  | .raw => lines (rows.map fun row => row.2.text)

/-- The note that registers were written. -/
def writeOutput (format : OutputFormat) (node : UInt8) (start : Register) (count : Nat) :
    List UInt8 :=
  match format with
  | .json =>
    lines [Json.object [("node", toString node.toNat), ("start", toString start.toNat),
      ("count", toString count), ("ok", "true")]]
  | .raw => []
  | .table | .pretty =>
    lines [s!"node={node.toNat} wrote {count} register(s) from " ++ Text.hex 1 start.toNat]

/-- Bytes as text, or a note of how many there are where they are none. -/
def preview (data : List UInt8) : String :=
  match String.fromUTF8? ⟨data.toArray⟩ with
  | some text => text
  | none => s!"<binary {data.length} bytes>"

/-- Bytes that came through a tunnel. -/
def tunnelOutput (format : OutputFormat) (node : UInt8) (channel : UInt32) (data : List UInt8) :
    List UInt8 :=
  let node := toString node.toNat
  let channel := toString channel.toNat
  let size := toString data.length
  match format with
  | .json =>
    lines [Json.object [("node", node), ("channel", channel), ("size", size),
      ("data", Json.string (preview data))]]
  | .table =>
    lines [Text.table ["NODE", "CHANNEL", "SIZE", "DATA"] [[node, channel, size, preview data]]]
  | .pretty =>
    lines [namedValues [("node", node), ("channel", channel), ("size", size),
      ("data", preview data)]]
  | .raw => data

/-- The counters of a node. -/
def statsOutput (format : OutputFormat) (id : UInt8) (stats : Stats) : List UInt8 :=
  let rows := stats.rows.map fun (name, count) => (name, toString count.toNat)
  match format with
  | .json | .raw =>
    lines [Json.object [("id", toString id.toNat), ("stats", Json.object rows)]]
  | .table => lines [Text.table ["COUNTER", "VALUE"] (rows.map fun (name, count) => [name, count])]
  | .pretty => lines [namedValues (("id", toString id.toNat) :: rows)]

/-- What the program is for and which commands it has. -/
def usageOutput : List UInt8 :=
  lines ["Multi-drop serial multiplex protocol node and client", "",
    "Usage: busmux [OPTIONS] <COMMAND>", "", "Commands:",
    "  serve    Run a node: answer register and tunnel requests on an endpoint",
    "  read     Read registers from a node", "  write    Write registers on a node",
    "  tunnel   Exchange bytes with a node over a tunnel channel",
    "  version  Show version information"]

/-- The version of the program. -/
def versionNumber : String := "0.1.0"

/-- The version. -/
def versionOutput (extended : Bool) : List UInt8 :=
  if extended then lines ["name: busmux", "version: " ++ versionNumber]
  else lines ["busmux " ++ versionNumber]

end Multidrop.Command
