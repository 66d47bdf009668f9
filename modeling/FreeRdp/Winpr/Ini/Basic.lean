import FreeRdp.Library.Copy
import FreeRdp.Library.GrowArray
import FreeRdp.Library.Loops
import FreeRdp.Winpr.Strings

/-!
# Ini files

Sections with keys and their values, as `utils/ini.c` keeps, writes and reads them. Strings are lists
of bytes without a zero. The reader works in its copy of the text: it ends the parts of a line by
zeros that it writes into it, so a line is a list of bytes in which a position past the end has the
zero that ends it. Allocations succeed.
-/

namespace FreeRdp

/-- `strtok_s` with line feeds: the next token, and what is behind it. -/
def strtokS (tokctx : List UInt8) : Option (List UInt8 × List UInt8) :=
  let s := tokctx.dropWhile (· = LF)
  if s = [] then none
  else some (s.takeWhile (· ≠ LF), (s.dropWhile (· ≠ LF)).drop 1)

/-! ### Sections and keys -/

/-- `wIniFileKey`. -/
structure WIniFileKey where
  name : List UInt8
  value : List UInt8
  deriving DecidableEq, Repr

/-- `wIniFileSection`. -/
structure WIniFileSection where
  name : List UInt8
  keys : GrowArray WIniFileKey
  deriving DecidableEq, Repr

/-- The sections of a `wIniFile`. -/
structure WIniFile where
  sections : GrowArray WIniFileSection
  deriving DecidableEq, Repr

/-- `IniFile_New`. -/
def iniFileNew : WIniFile := ⟨.empty 64 (by decide)⟩

/-- `IniFile_Section_New`. -/
def iniFileSectionNew (name : List UInt8) : WIniFileSection := ⟨name, .empty 64 (by decide)⟩

/-- `IniFile_GetSection`: the index of a section. -/
def iniFileGetSection (ini : WIniFile) (name : List UInt8) : Option Nat :=
  ini.sections.items.findIdx? fun s => stricmpEqual name s.name

/-- `IniFile_AddSection`. -/
def iniFileAddSection (ini : WIniFile) (name : List UInt8) : WIniFile × Nat :=
  match iniFileGetSection ini name with
  | some i => (ini, i)
  | none => (⟨ini.sections.push (iniFileSectionNew name)⟩, ini.sections.items.length)

/-- `IniFile_GetKey`: the index of a key. -/
def iniFileGetKey (s : WIniFileSection) (name : List UInt8) : Option Nat :=
  s.keys.items.findIdx? fun key => stricmpEqual name key.name

/-- `IniFile_AddKey`. -/
def iniFileAddKey (name value : List UInt8) (s : WIniFileSection) : WIniFileSection :=
  match iniFileGetKey s name with
  | none => { s with keys := s.keys.push ⟨name, value⟩ }
  | some i => { s with keys := s.keys.modify i fun key => { key with value := value } }

/-- The section at an index is changed. -/
def WIniFile.modify (ini : WIniFile) (i : Nat) (f : WIniFileSection → WIniFileSection) : WIniFile :=
  ⟨ini.sections.modify i f⟩

/-- `IniFile_SetKeyValueString`. -/
def iniFileSetKeyValueString (ini : WIniFile) (name key value : List UInt8) : WIniFile :=
  match iniFileGetSection ini name with
  | some i => ini.modify i (iniFileAddKey key value)
  | none =>
    let (ini, i) := iniFileAddSection ini name
    ini.modify i (iniFileAddKey key value)

/-! ### Writing -/

/-- A buffer that is written to: the position, and how far anything has been written. -/
structure IniWriter where
  buffer : Nat → UInt8
  offset : Nat
  top : Nat

/-- `sprintf_s` at the position, which then goes on by `length`; not more than `size` bytes of the
buffer are used. -/
def IniWriter.sprintfS (size : Nat) (text : List UInt8) (length : Nat) (w : IniWriter) :
    IniWriter :=
  let n := size - w.offset
  let written := if n = 0 then [] else text.take (n - 1) ++ [0]
  { buffer := writeList w.buffer w.offset written
    offset := w.offset + length
    top := max w.top (w.offset + written.length) }

/-- The size that `IniFile_WriteBuffer` computes. -/
def iniFileSize (ini : WIniFile) : Nat :=
  (ini.sections.items.map fun s => s.name.length + 3 +
    (s.keys.items.map fun key => key.name.length + key.value.length + 2).sum + 1).sum + 1

/-- A key of `IniFile_WriteBuffer`. -/
def IniWriter.putKey (size : Nat) (w : IniWriter) (key : WIniFileKey) : IniWriter :=
  w.sprintfS size (key.name ++ EQUALS :: key.value ++ [LF]) (key.name.length + key.value.length + 2)

/-- A section of `IniFile_WriteBuffer`. -/
def IniWriter.putSection (size : Nat) (w : IniWriter) (s : WIniFileSection) : IniWriter :=
  let w := w.sprintfS size (LBRACKET :: s.name ++ [RBRACKET, LF]) (s.name.length + 3)
  let w := s.keys.items.foldl (IniWriter.putKey size) w
  w.sprintfS size [LF] 1

/-- `IniFile_WriteBuffer`, in a buffer with some contents. -/
def iniFileWriteBuffer (m : Nat → UInt8) (ini : WIniFile) : IniWriter :=
  let w := ini.sections.items.foldl (IniWriter.putSection (iniFileSize ini)) ⟨m, 0, 0⟩
  { w with
    buffer := writeList w.buffer w.offset [0]
    top := max w.top (w.offset + 1) }

/-! ### Reading -/

/-- `IniFile_Load_NextLine`: the next line, and what is behind it. -/
def iniFileLoadNextLine (tokctx : List UInt8) : Option (List UInt8) × List UInt8 :=
  match strtokS tokctx with
  | none => (none, [])
  | some (line, tokctx) =>
    let line := if line.getLast? = some CR then line.dropLast else line
    (if line.length < 1 then none else some line, tokctx)

/-- A pointer goes back over blanks, not below a position. -/
def trimBlanks (line : List UInt8) (low : Nat) : Nat → Nat
  | 0 => 0
  | i + 1 => if low < i + 1 ∧ isBlank (line.getD i 0) then trimBlanks line low i else i + 1

/-- A pointer goes on over blanks. -/
def skipBlanks (line : List UInt8) (i : Nat) : Nat := i + ((line.drop i).takeWhile isBlank).length

/-- The part of a line behind `=` that is the value, with the line in which it is ended. -/
def iniFileLoadValue (line : List UInt8) (lineLength separator : Nat) : List UInt8 :=
  let beg := skipBlanks line (separator + 1)
  let beg := if line.getD beg 0 = QUOTE then beg + 1 else beg
  let stop := trimBlanks line beg lineLength
  let line := if line.getD (stop - 1) 0 = QUOTE then line.set (stop - 1) 0 else line
  cString line beg

/-- A round of `IniFile_Load` for a line, with the index of the section. -/
def iniFileLoadLine (ini : WIniFile) (index : Option Nat) (line : List UInt8) :
    Option (WIniFile × Option Nat) :=
  if line.getD 0 0 = SEMICOLON then some (ini, index)
  else if line.getD 0 0 = LBRACKET then do
    let stop ← strchr line RBRACKET
    let (ini, _) := iniFileAddSection ini (cString (line.set stop 0) 1)
    return (ini, some (ini.sections.items.length - 1))
  else do
    let separator ← strchr line EQUALS
    let lineLength := line.length
    let line := line.set (trimBlanks line 1 separator) 0
    let name := cString line 0
    let value := iniFileLoadValue line lineLength separator
    let index ← index
    return (ini.modify index (iniFileAddKey name value), some index)

/-- The variables of `IniFile_Load`. -/
structure IniReader where
  ini : WIniFile
  index : Option Nat
  nextLine : Option (List UInt8)
  tokctx : List UInt8

/-- A round of the loop of `IniFile_Load`. -/
def iniFileLoadRound (r : IniReader) : Round IniReader (Option WIniFile) :=
  match r.nextLine with
  | none => .done (some r.ini)
  | some line =>
    let (nextLine, tokctx) := iniFileLoadNextLine r.tokctx
    match iniFileLoadLine r.ini r.index line with
    | none => .done none
    | some (ini, index) => .next ⟨ini, index, nextLine, tokctx⟩

/-- `IniFile_Load` on the text in the buffer; every round takes a byte of it at least. -/
def iniFileLoad (ini : WIniFile) (buffer : List UInt8) : Option WIniFile :=
  let (nextLine, tokctx) := iniFileLoadNextLine buffer
  (loop iniFileLoadRound (buffer.length + 1) ⟨ini, none, nextLine, tokctx⟩).join

/-- `IniFile_ReadBuffer` of the string that some bytes begin with. -/
def iniFileReadBuffer (ini : WIniFile) (bytes : List UInt8) : Option WIniFile :=
  let iniString := cString bytes 0
  if iniString.length < 1 then none else iniFileLoad ini (iniString ++ [LF])

end FreeRdp
