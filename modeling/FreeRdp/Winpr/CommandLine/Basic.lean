import FreeRdp.Library.Loops
import FreeRdp.Winpr.Strings

/-!
# Command lines

`CommandLineParseArgumentsA` of `utils/cmdline.c` without filters. The parser goes through the
arguments with an index that its loop over the options changes too. Beside its variables it has two
records: the arguments that it has used, as an option or as the value of one, and the places where the
index has stood.
-/

namespace FreeRdp

/-! ### `cmdline.h` -/

def COMMAND_LINE_VALUE_FLAG : Nat := 0x00000001
def COMMAND_LINE_VALUE_REQUIRED : Nat := 0x00000002
def COMMAND_LINE_VALUE_OPTIONAL : Nat := 0x00000004
def COMMAND_LINE_VALUE_BOOL : Nat := 0x00000008
def COMMAND_LINE_PRINT : Nat := 0x00000200
def COMMAND_LINE_PRINT_HELP : Nat := 0x00000400
def COMMAND_LINE_PRINT_VERSION : Nat := 0x00000800
def COMMAND_LINE_PRINT_BUILDCONFIG : Nat := 0x00001000
def COMMAND_LINE_ARGUMENT_PRESENT : Nat := 0x80000000
def COMMAND_LINE_VALUE_PRESENT : Nat := 0x40000000
def COMMAND_LINE_SIGIL_NONE : Nat := 0x00000001
def COMMAND_LINE_SIGIL_SLASH : Nat := 0x00000002
def COMMAND_LINE_SIGIL_DASH : Nat := 0x00000004
def COMMAND_LINE_SIGIL_DOUBLE_DASH : Nat := 0x00000008
def COMMAND_LINE_SIGIL_PLUS_MINUS : Nat := 0x00000010
def COMMAND_LINE_SIGIL_ENABLE_DISABLE : Nat := 0x00000020
def COMMAND_LINE_SIGIL_NOT_ESCAPED : Nat := 0x00000040
def COMMAND_LINE_SEPARATOR_COLON : Nat := 0x00000100
def COMMAND_LINE_SEPARATOR_EQUAL : Nat := 0x00000200
def COMMAND_LINE_SEPARATOR_SPACE : Nat := 0x00000400
def COMMAND_LINE_IGN_UNKNOWN_KEYWORD : Nat := 0x00001000
def COMMAND_LINE_ERROR : Int := -1000
def COMMAND_LINE_ERROR_NO_KEYWORD : Int := -1001
def COMMAND_LINE_ERROR_UNEXPECTED_VALUE : Int := -1002
def COMMAND_LINE_ERROR_MISSING_VALUE : Int := -1003
def COMMAND_LINE_STATUS_PRINT : Int := -2001
def COMMAND_LINE_STATUS_PRINT_HELP : Int := -2002
def COMMAND_LINE_STATUS_PRINT_VERSION : Int := -2003
def COMMAND_LINE_STATUS_PRINT_BUILDCONFIG : Int := -2004

/-- A test of a flag, or of one of several. -/
def hasFlag (flags mask : Nat) : Bool := flags &&& mask ≠ 0

/-- `Value` of an option: a text, or one of the constants. -/
inductive CommandLineValue where
  | null
  | text (s : List UInt8)
  | flag
  | boolTrue
  | boolFalse
  deriving DecidableEq, Repr

/-- `COMMAND_LINE_ARGUMENT_A`. -/
structure CommandLineArgument where
  name : List UInt8
  flags : Nat
  value : CommandLineValue
  aliasName : Option (List UInt8)
  index : Nat
  deriving DecidableEq, Repr

/-- The kind of an option asks for a value, or allows one. -/
def CommandLineArgument.takesValue (o : CommandLineArgument) : Bool :=
  hasFlag o.flags (COMMAND_LINE_VALUE_OPTIONAL ||| COMMAND_LINE_VALUE_REQUIRED)

/-! ### An argument -/

/-- What an argument begins with. -/
inductive CommandLineSigil where
  | escaped (length : Nat)
  | unescaped
  | invalid
  deriving DecidableEq, Repr

/-- The sigil of an argument. -/
def commandLineSigil (flags : Nat) (argument : List UInt8) : CommandLineSigil :=
  let sigil := argument.getD 0 0
  if sigil = SLASH ∧ hasFlag flags COMMAND_LINE_SIGIL_SLASH then .escaped 1
  else if sigil = DASH ∧ hasFlag flags COMMAND_LINE_SIGIL_DASH then
    if 2 < argument.length ∧ argument.getD 1 0 = DASH ∧
      hasFlag flags COMMAND_LINE_SIGIL_DOUBLE_DASH then .escaped 2
    else .escaped 1
  else if sigil = PLUS ∧ hasFlag flags COMMAND_LINE_SIGIL_PLUS_MINUS then .escaped 1
  else if sigil = DASH ∧ hasFlag flags COMMAND_LINE_SIGIL_PLUS_MINUS then .escaped 1
  else if hasFlag flags COMMAND_LINE_SIGIL_NONE then .escaped 0
  else if hasFlag flags COMMAND_LINE_SIGIL_NOT_ESCAPED then .unescaped
  else .invalid

/-- `enable-`. -/
def enableText : List UInt8 := [0x65, 0x6E, 0x61, 0x62, 0x6C, 0x65, 0x2D]

/-- `disable-`. -/
def disableText : List UInt8 := [0x64, 0x69, 0x73, 0x61, 0x62, 0x6C, 0x65, 0x2D]

/-- `toggle`, and the keyword behind what it is read from. -/
def commandLineToggle (flags : Nat) (keyword : List UInt8) : Option Bool × List UInt8 :=
  if hasFlag flags COMMAND_LINE_SIGIL_ENABLE_DISABLE then
    if enableText <+: keyword then (some true, keyword.drop 7)
    else if disableText <+: keyword then (some false, keyword.drop 8)
    else (none, keyword)
  else (none, keyword)

/-- The position of the separator in a keyword. -/
def commandLineSeparator (flags : Nat) (keyword : List UInt8) : Option Nat :=
  let colon := if hasFlag flags COMMAND_LINE_SEPARATOR_COLON then strchr keyword COLON else none
  if hasFlag flags COMMAND_LINE_SEPARATOR_EQUAL ∧ colon.isNone then strchr keyword EQUALS else colon

/-- What the loop over the options looks at of an argument: its first character, `toggle`, the
`keyword_length` characters of the keyword and the text behind the separator. -/
structure CommandLineKeyword where
  sigil : UInt8
  toggle : Option Bool
  keyword : List UInt8
  value : Option (List UInt8)
  deriving DecidableEq, Repr

/-- The parts of an argument behind its sigil. -/
def commandLineKeyword (flags : Nat) (argument : List UInt8) (sigilLength : Nat) :
    CommandLineKeyword :=
  let (toggle, keyword) := commandLineToggle flags (argument.drop sigilLength)
  match commandLineSeparator flags keyword with
  | some i => ⟨argument.getD 0 0, toggle, keyword.take i, some (keyword.drop (i + 1))⟩
  | none => ⟨argument.getD 0 0, toggle, keyword, none⟩

/-! ### The loop over the options -/

/-- `value`: a null pointer, the text behind the separator, or an argument. -/
inductive KeywordValue where
  | null
  | separated (s : List UInt8)
  | argument (i : Nat)
  deriving DecidableEq, Repr

/-- The variables of the loop over the options. -/
structure KeywordState where
  i : Nat
  value : KeywordValue
  found : Bool
  used : List Nat
  places : List Nat

variable (flags : Nat) (argv : List (List UInt8))

/-- The name or the alias of an option is the keyword. -/
def CommandLineArgument.Matches (o : CommandLineArgument) (keyword : List UInt8) : Prop :=
  o.name = keyword ∨ o.aliasName = some keyword

instance (o : CommandLineArgument) (keyword : List UInt8) : Decidable (o.Matches keyword) :=
  inferInstanceAs (Decidable (_ ∨ _))

/-- The next argument does not look like an option. -/
def valuePresent (next : List UInt8) : Bool :=
  !(hasFlag flags COMMAND_LINE_SIGIL_DASH && decide ([DASH] <+: next)) &&
    !(hasFlag flags COMMAND_LINE_SIGIL_DOUBLE_DASH && decide ([DASH, DASH] <+: next)) &&
    !(hasFlag flags COMMAND_LINE_SIGIL_SLASH && decide ([SLASH] <+: next))

/-- What the next argument does where a space is a separator: the new `i` and `value`, or none if an
argument is required. -/
def nextArgument (o : CommandLineArgument) (k : KeywordState) : Option (Nat × KeywordValue) :=
  if hasFlag flags COMMAND_LINE_SEPARATOR_SPACE ∧ k.i + 1 < argv.length then
    let present := valuePresent flags (argv.getD (k.i + 1) [])
    if present ∧ o.takesValue then some (k.i + 1, .argument (k.i + 1))
    else if ¬present ∧ hasFlag o.flags COMMAND_LINE_VALUE_OPTIONAL then some (k.i, .null)
    else if ¬present ∧ o.takesValue then none
    else some (k.i, k.value)
  else some (k.i, k.value)

/-- The text of a value. -/
def KeywordValue.text : KeywordValue → List UInt8
  | .null => []
  | .separated s => s
  | .argument i => argv.getD i []

/-- The argument that a value is. -/
def KeywordValue.used : KeywordValue → List Nat
  | .argument i => [i]
  | _ => []

/-- The constant for an option that has no value. -/
def constantValue (keyword : CommandLineKeyword) (o : CommandLineArgument) :
    Option CommandLineValue :=
  if hasFlag o.flags COMMAND_LINE_VALUE_FLAG then some .flag
  else if hasFlag o.flags COMMAND_LINE_VALUE_BOOL then
    if hasFlag flags COMMAND_LINE_SIGIL_ENABLE_DISABLE then
      match keyword.toggle with
      | none => some .boolTrue
      | some false => some .boolFalse
      | some true => some .boolTrue
    else if keyword.sigil = PLUS then some .boolTrue
    else if keyword.sigil = DASH then some .boolFalse
    else some .boolTrue
  else none

/-- The value is stored. -/
def CommandLineArgument.store (o : CommandLineArgument) (value : CommandLineValue) :
    CommandLineArgument :=
  { o with value := value, flags := o.flags ||| COMMAND_LINE_VALUE_PRESENT }

/-- The status of an option that prints something. -/
def printStatus (o : CommandLineArgument) : Option Int :=
  if hasFlag o.flags COMMAND_LINE_PRINT then some COMMAND_LINE_STATUS_PRINT
  else if hasFlag o.flags COMMAND_LINE_PRINT_HELP then some COMMAND_LINE_STATUS_PRINT_HELP
  else if hasFlag o.flags COMMAND_LINE_PRINT_VERSION then some COMMAND_LINE_STATUS_PRINT_VERSION
  else if hasFlag o.flags COMMAND_LINE_PRINT_BUILDCONFIG then
    some COMMAND_LINE_STATUS_PRINT_BUILDCONFIG
  else none

/-- The end of an option: what is stored in it for its value. -/
def storeValue (keyword : CommandLineKeyword) (o : CommandLineArgument) (k : KeywordState) :
    CommandLineArgument × KeywordState × Option Int :=
  if k.value = .null ∧ hasFlag o.flags COMMAND_LINE_VALUE_REQUIRED then
    (o, k, some COMMAND_LINE_ERROR_MISSING_VALUE)
  else
    let o := { o with flags := o.flags ||| COMMAND_LINE_ARGUMENT_PRESENT }
    if k.value ≠ .null then
      if ¬o.takesValue then (o, k, some COMMAND_LINE_ERROR_UNEXPECTED_VALUE)
      else
        let o := o.store (.text (k.value.text argv))
        (o, { k with used := k.used ++ k.value.used }, printStatus o)
    else
      let o := match constantValue flags keyword o with
        | some value => o.store value
        | none => o
      (o, k, printStatus o)

/-- What the loop over the options does for an option with the keyword. -/
def parseOption (keyword : CommandLineKeyword) (o : CommandLineArgument) (k : KeywordState) :
    CommandLineArgument × KeywordState × Option Int :=
  let k := { k with found := true }
  let o := { o with index := k.i }
  match nextArgument flags argv o k with
  | none => (o, k, some COMMAND_LINE_ERROR)
  | some (i, value) =>
    let k := { k with i := i, value := value }
    if k.value ≠ .null ∧ hasFlag o.flags COMMAND_LINE_VALUE_FLAG then
      if hasFlag flags COMMAND_LINE_SEPARATOR_SPACE then
        storeValue flags argv keyword o { k with i := k.i - 1, value := .null }
      else (o, k, some COMMAND_LINE_ERROR_UNEXPECTED_VALUE)
    else storeValue flags argv keyword o k

/-- The loop over the options. -/
def parseOptions (keyword : CommandLineKeyword) :
    List CommandLineArgument → KeywordState →
      List CommandLineArgument × KeywordState × Option Int
  | [], k => ([], k, none)
  | o :: options, k =>
    if o.Matches keyword.keyword then
      match parseOption flags argv keyword o k with
      | (o, k, some status) => (o :: options, k, some status)
      | (o, k, none) =>
        let (options, k, status) :=
          parseOptions keyword options { k with places := k.places ++ [k.i] }
        (o :: options, k, status)
    else
      let (options, k, status) := parseOptions keyword options k
      (o :: options, k, status)

/-! ### The loop over the arguments -/

/-- The variables of the loop over the arguments. -/
structure CommandLineState where
  i : Nat
  notescaped : Bool
  options : List CommandLineArgument
  used : List Nat
  places : List Nat

/-- The loop over the options begins with the value behind the separator. -/
def CommandLineState.keywordState (s : CommandLineState) (keyword : CommandLineKeyword) :
    KeywordState where
  i := s.i
  value := match keyword.value with
    | some text => .separated text
    | none => .null
  found := false
  used := s.used ++ [s.i]
  places := s.places ++ [s.i]

/-- The variables behind the loop over the options. -/
def CommandLineState.behind (s : CommandLineState) (options : List CommandLineArgument)
    (k : KeywordState) : CommandLineState :=
  { s with i := k.i, options := options, used := k.used, places := k.places }

/-- The argument at the index is used for itself. -/
def CommandLineState.useArgument (s : CommandLineState) : CommandLineState :=
  { s with used := s.used ++ [s.i], places := s.places ++ [s.i] }

/-- The index goes on. -/
def CommandLineState.step (s : CommandLineState) : CommandLineState := { s with i := s.i + 1 }

/-- An argument without a keyword. -/
def withoutKeyword (s : CommandLineState) : Round CommandLineState (Int × CommandLineState) :=
  if hasFlag flags COMMAND_LINE_IGN_UNKNOWN_KEYWORD then .next s.step
  else .done (COMMAND_LINE_ERROR_NO_KEYWORD, s)

/-- A round of the loop over the arguments. -/
def commandLineRound (s : CommandLineState) : Round CommandLineState (Int × CommandLineState) :=
  if argv.length ≤ s.i then .done (0, s)
  else
    let argument := argv.getD s.i []
    match commandLineSigil flags argument with
    | .invalid => .done (COMMAND_LINE_ERROR, s.useArgument)
    | .unescaped =>
      if s.notescaped then .done (COMMAND_LINE_ERROR, s.useArgument)
      else
        let s := { s with notescaped := true }.useArgument
        if argument.length < 1 then withoutKeyword flags s else .next s.step
    | .escaped sigilLength =>
      if argument.length < sigilLength + 1 then withoutKeyword flags s.useArgument
      else
        let keyword := commandLineKeyword flags argument sigilLength
        match parseOptions flags argv keyword s.options (s.keywordState keyword) with
        | (options, k, some status) => .done (status, s.behind options k)
        | (options, k, none) =>
          if k.found then .next (s.behind options k).step
          else withoutKeyword flags (s.behind options k)

/-- The variables at the beginning. -/
def commandLineStart (options : List CommandLineArgument) : CommandLineState :=
  ⟨1, false, options, [], []⟩

/-- `CommandLineParseArgumentsA` with no more than `argc - 1` rounds of the loop, and the end of the
last one. -/
def commandLineParseArguments (options : List CommandLineArgument) :
    Option (Int × CommandLineState) :=
  if argv.length = 1 then
    some (if hasFlag flags COMMAND_LINE_IGN_UNKNOWN_KEYWORD then 0
      else COMMAND_LINE_STATUS_PRINT_HELP, commandLineStart options)
  else loop (commandLineRound flags argv) (argv.length - 1 + 1) (commandLineStart options)

end FreeRdp
