/-! What kind of module a byte string holds, told by how it begins. -/
namespace GuestHost.Container

inductive Format where
  | binary
  | text
  deriving DecidableEq

def magic : List UInt8 := [0x00, 0x61, 0x73, 0x6d]

def byteOrderMark : List UInt8 := [0xef, 0xbb, 0xbf]

/-- Space, tab, line feed, form feed and carriage return. -/
def isBlank (b : UInt8) : Bool :=
  b == 0x20 || b == 0x09 || b == 0x0a || b == 0x0c || b == 0x0d

def withoutMark (bytes : List UInt8) : List UInt8 :=
  if byteOrderMark.isPrefixOf bytes then bytes.drop 3 else bytes

/-- A module in text form opens with a parenthesis, behind a mark and blanks at most. -/
def Format.ofList? (bytes : List UInt8) : Option Format :=
  if magic.isPrefixOf bytes then some .binary
  else if ((withoutMark bytes).dropWhile isBlank).head? = some 0x28 then some .text
  else none

def Format.ofBytes? (bytes : ByteArray) : Option Format :=
  Format.ofList? bytes.data.toList

end GuestHost.Container
