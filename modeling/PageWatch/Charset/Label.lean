import PageWatch.Charset.CodePages
import PageWatch.Charset.EastAsian
import PageWatch.Charset.LabelTable
import PageWatch.Charset.Unicode

/-!
# Charsets and their labels
-/

set_option autoImplicit false

namespace PageWatch

inductive Charset where
  | utf8
  | utf16 (bigEndian : Bool)
  | gbk
  | gb18030
  | big5
  | eucKr
  | eucJp
  | shiftJis
  | iso2022Jp
  | userDefined
  | replacement
  | codePage (name : String)
  deriving Repr, DecidableEq

namespace Charset

def name : Charset → String
  | utf8 => "UTF-8"
  | utf16 false => "UTF-16LE"
  | utf16 true => "UTF-16BE"
  | gbk => "GBK"
  | gb18030 => "gb18030"
  | big5 => "Big5"
  | eucKr => "EUC-KR"
  | eucJp => "EUC-JP"
  | shiftJis => "Shift_JIS"
  | iso2022Jp => "ISO-2022-JP"
  | userDefined => "x-user-defined"
  | replacement => "replacement"
  | codePage name => name

def structured : List Charset :=
  [utf8, utf16 false, utf16 true, gbk, gb18030, big5, eucKr, eucJp, shiftJis, iso2022Jp,
   userDefined, replacement]

def ofName (name : String) : Charset :=
  (structured.find? (·.name == name)).getD (codePage name)

def isLabelSpace (c : Char) : Bool :=
  c == ' ' || c == '\t' || c == '\n' || c == '\x0c' || c == '\r'

def trimmedLabel (label : String) : List Char :=
  ((label.toList.dropWhile isLabelSpace).reverse.dropWhile isLabelSpace).reverse

def ofLabel? (label : String) : Option Charset :=
  let key := String.ofList ((trimmedLabel label).map Text.lower)
  (labelRows.find? (·.2.contains key)).map fun (name, _) => ofName name

def pageTable (rows : List String) : Table :=
  let listed := Table.ofRows rows
  if listed.chars.size = 128 then listed
  else ⟨((List.range 32).map fun i => Char.ofNat (0x80 + i)).toArray ++ listed.chars⟩

def pageTables : List (String × Table) := codePages.map fun (name, rows) => (name, pageTable rows)

def singles (char? : UInt8 → Option Char) : Decoder where
  State := Unit
  start := ()
  step _ b := ((), [if isAscii b then some (asciiChar b) else char? b])
  finish _ := []

def page (name : String) : Decoder :=
  match pageTables.find? (·.1 == name) with
  | some (_, table) => singles fun b => table.get? (b.toNat - 0x80)
  | none => singles fun _ => none

def userDefinedChar (b : UInt8) : Char := Char.ofNat (0xF780 + (b.toNat - 0x80))

/-- Texts in these charsets are not shown at all. -/
def unreadable : Decoder where
  State := Bool
  start := false
  step seen _ := (true, if seen then [] else [none])
  finish _ := []

def decoder : Charset → Decoder
  | utf8 => utf8Decoder
  | utf16 bigEndian => utf16Decoder bigEndian
  | gbk | gb18030 => chineseDecoder
  | big5 => taiwaneseDecoder
  | eucKr => koreanDecoder
  | eucJp => eucJpDecoder
  | shiftJis => shiftJisDecoder
  | iso2022Jp => iso2022JpDecoder
  | userDefined => singles fun b => some (userDefinedChar b)
  | replacement => unreadable
  | codePage name => page name

end Charset

end PageWatch
