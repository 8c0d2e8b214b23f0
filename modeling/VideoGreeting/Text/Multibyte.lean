import VideoGreeting.Text.Bytes
import VideoGreeting.Text.CharTable
import VideoGreeting.Text.CharTable.Japanese
import VideoGreeting.Text.CharTable.Korean
import VideoGreeting.Text.CharTable.SimplifiedChinese
import VideoGreeting.Text.CharTable.TraditionalChinese

/-!
# Characters of several bytes

The sets for Chinese, Japanese and Korean write ASCII in single bytes and all else in groups of
bytes. Reading goes from group to group, and the replacement character stands for a group without a
character. An ASCII byte that a broken group would swallow is read again on its own.
-/

namespace VideoGreeting.Text

/-! ## Blocks of bytes -/

/-- Blocks of byte values, each given by its first and its last value. -/
abbrev Blocks := List (UInt8 × UInt8)

namespace Blocks

/-- How many values blocks have. -/
def size : Blocks → Nat
  | [] => 0
  | (first, last) :: rest => last.toNat - first.toNat + 1 + size rest

/-- The rank of a byte among the values of blocks. -/
def rank? : Blocks → UInt8 → Option Nat
  | [], _ => none
  | (first, last) :: rest, b =>
    if first ≤ b && b ≤ last then some (b.toNat - first.toNat)
    else (rank? rest b).map (last.toNat - first.toNat + 1 + ·)

/-- Whether a byte is among the values of blocks. -/
def has (blocks : Blocks) (b : UInt8) : Bool := (blocks.rank? b).isSome

end Blocks

/-! ## Groups of bytes -/

/-- What the first byte of a sequence writes, perhaps together with bytes behind it. -/
structure Group where
  /-- The characters, unless the group has none. -/
  chars : Option (List Char)
  /-- How many bytes behind the first belong to the group. -/
  behind : Nat
  deriving Repr, DecidableEq

namespace Group

/-- A byte that is a character by itself. -/
def single (c : Char) : Group := ⟨some [c], 0⟩

/-- A byte that begins no group. -/
def stray : Group := ⟨none, 0⟩

/-- The group of a byte that needs a second one. If the two write nothing, the second belongs to the
group only when it is not ASCII. -/
def pair (chars? : UInt8 → Option (List Char)) : Bytes → Group
  | [] => stray
  | second :: _ =>
    match chars? second with
    | some chars => ⟨some chars, 1⟩
    | none => ⟨none, if second < 0x80 then 0 else 1⟩

end Group

/-- Reads bytes group by group, where the way to read a group may depend on the groups before. -/
def readGroups {σ : Type} (next : σ → UInt8 → Bytes → Group × σ) (state : σ) (bytes : Bytes) :
    List Char :=
  match bytes with
  | [] => []
  | b :: rest =>
    let (group, after) := next state b rest
    group.chars.getD [replacement] ++ readGroups next after (rest.drop group.behind)
  termination_by bytes.length
  decreasing_by simp only [List.length_cons, List.length_drop]; omega

/-- Reads bytes group by group, where ASCII stands for itself. -/
def readMixed (next : UInt8 → Bytes → Group) (bytes : Bytes) : String :=
  String.ofList (readGroups (fun () b rest =>
    (if b < 0x80 then .single (Char.ofNat b.toNat) else next b rest, ())) () bytes)

/-! ## Grids -/

/-- A set whose characters are numbered by a first and a second byte. -/
structure Grid where
  /-- The bytes that choose a row. -/
  rows : Blocks
  /-- The bytes that choose a column. -/
  columns : Blocks
  table : CharTable

namespace Grid

/-- What a row and a column write. -/
def chars? (g : Grid) (first second : UInt8) : Option (List Char) := do
  let row ← g.rows.rank? first
  let column ← g.columns.rank? second
  g.table.chars? (row * g.columns.size + column)

/-- The group of a byte that is to choose a row. -/
def group (g : Grid) (b : UInt8) (rest : Bytes) : Group :=
  if g.rows.has b then .pair (g.chars? b) rest else .stray

/-- A grid of 94 rows and 94 columns in the upper half of the byte values. -/
def upper (table : CharTable) : Grid := ⟨[(0xa1, 0xfe)], [(0xa1, 0xfe)], table⟩

/-- The grid of Shift JIS. -/
def shiftJis : Grid :=
  ⟨[(0x81, 0x9f), (0xe0, 0xfc)], [(0x40, 0x7e), (0x80, 0xfc)], CharTable.jisX0208⟩

/-- The grid of the Korean set. -/
def korean : Grid := ⟨[(0x81, 0xfe)], [(0x41, 0xfe)], CharTable.unifiedHangul⟩

/-- The grid of the pairs of GB 18030. -/
def gb18030 : Grid := ⟨[(0x81, 0xfe)], [(0x40, 0x7e), (0x80, 0xfe)], CharTable.gbPairs⟩

/-- The grid of Big5. -/
def big5 : Grid := ⟨[(0x81, 0xfe)], [(0x40, 0x7e), (0xa1, 0xfe)], CharTable.big5⟩

/-- The grid of the two-byte characters of ISO-2022-JP, in the lower half of the byte values. -/
def lower : Grid := ⟨[(0x21, 0x7e)], [(0x21, 0x7e)], CharTable.jisX0208⟩

end Grid

/-! ## Japanese -/

/-- The narrow katakana that bytes from `first` on write. -/
def narrowKatakana? (first b : UInt8) : Option Char :=
  (Blocks.rank? [(first, first + 62)] b).map fun i => Char.ofNat (0xff61 + i)

/-- Shift JIS: narrow katakana take one byte. -/
def shiftJis : Bytes → String :=
  readMixed fun b rest =>
    if b == 0x80 then .single '\u0080'
    else match narrowKatakana? 0xa1 b with
      | some c => .single c
      | none => Grid.shiftJis.group b rest

/-- EUC-JP: `0x8e` leads narrow katakana, and `0x8f` leads the characters of the supplement. -/
def eucJapanese : Bytes → String :=
  readMixed fun b rest =>
    if b == 0x8e then .pair (fun second => (narrowKatakana? 0xa1 second).map ([·])) rest
    else if b == 0x8f then
      match rest with
      | second :: tail =>
        let supplement := Grid.upper CharTable.jisX0212
        if supplement.rows.has second then
          let group := supplement.group second tail
          { group with behind := group.behind + 1 }
        else .pair (fun _ => none) rest
      | [] => .stray
    else (Grid.upper CharTable.jisX0208).group b rest

/-- What the bytes of ISO-2022-JP stand for until the next escape. -/
inductive Shift where
  | ascii
  /-- ASCII in which two characters are replaced. -/
  | roman
  | katakana
  | double
  deriving Repr, DecidableEq

namespace Shift

/-- The shift that the bytes behind an escape character choose. -/
def chosen? : Bytes → Option Shift
  | 0x28 :: 0x42 :: _ => some ascii
  | 0x28 :: 0x4a :: _ => some roman
  | 0x28 :: 0x49 :: _ => some katakana
  | 0x24 :: 0x40 :: _ => some double
  | 0x24 :: 0x42 :: _ => some double
  | _ => none

/-- The group of an ASCII byte, of which the two that once shifted between sets are refused. -/
def asciiGroup (b : UInt8) : Group :=
  if b < 0x80 && b != 0x0e && b != 0x0f then .single (Char.ofNat b.toNat) else .stray

/-- The group of a byte that is not an escape character. In pairs, an escape character ends a broken
pair, and any other byte belongs to it. -/
def group : Shift → UInt8 → Bytes → Group
  | ascii, b, _ => asciiGroup b
  | roman, b, _ =>
    if b == 0x5c then .single '¥' else if b == 0x7e then .single '‾' else asciiGroup b
  | katakana, b, _ =>
    match narrowKatakana? 0x21 b with
    | some c => .single c
    | none => .stray
  | double, _, [] => .stray
  | double, b, second :: _ =>
    if Grid.lower.rows.has b && second != 0x1b then ⟨Grid.lower.chars? b second, 1⟩ else .stray

end Shift

/-- ISO-2022-JP: an escape chooses what the bytes behind it stand for. An escape that follows
another one at once shows as a replacement character. -/
def iso2022Japanese (bytes : Bytes) : String :=
  String.ofList (readGroups (fun (shift, escaped) b rest =>
    if b == 0x1b then
      match Shift.chosen? rest with
      | some chosen => (⟨if escaped then none else some [], 2⟩, (chosen, true))
      | none => (.stray, (shift, false))
    else (shift.group b rest, (shift, false))) (Shift.ascii, false) bytes)

/-! ## Korean and Chinese -/

/-- EUC-KR with all of hangul. -/
def eucKorean : Bytes → String := readMixed Grid.korean.group

/-- Big5 with the characters of Hong Kong. -/
def big5 : Bytes → String := readMixed Grid.big5.group

/-- The bytes that are digits. -/
def digits : Blocks := [(0x30, 0x39)]

/-- The group of four that `first` and the digit `second` begin. When a byte at a later place does
not fit, the group has its first byte alone. -/
def gbGroup (first second : UInt8) : Bytes → Group
  | [] => ⟨none, 1⟩
  | [third] => if Grid.gb18030.rows.has third then ⟨none, 2⟩ else .stray
  | third :: fourth :: _ =>
    match Grid.gb18030.rows.rank? first, digits.rank? second, Grid.gb18030.rows.rank? third,
      digits.rank? fourth with
    | some i, some j, some k, some l =>
      ⟨CharTable.gbGroups.chars? (((i * 10 + j) * Grid.gb18030.rows.size + k) * 10 + l), 3⟩
    | _, _, _, _ => .stray

/-- GB 18030: a digit as the second byte begins a group of four. -/
def gb18030 : Bytes → String :=
  readMixed fun b rest =>
    if b == 0x80 then .single '€'
    else match rest with
      | second :: tail =>
        if Grid.gb18030.rows.has b && digits.has second then gbGroup b second tail
        else Grid.gb18030.group b rest
      | [] => .stray

end VideoGreeting.Text
