import HostEngine.Text.Octets
import HostEngine.Text.Digits
import HostEngine.Text.Unprintable
/-!
Quoted forms of texts, file names and native strings. All three stand between double quotes and
escape what cannot be shown; a native string escapes the apostrophe too, and they differ in controls
and in ill-formed octets.
-/
set_option autoImplicit false

namespace HostEngine.Quoted

def byNumber (c : Char) : List Char :=
  "\\u\x7b".toList ++ (hexadecimal c.toNat).toList ++ ['\x7d']

def escapeChar (c : Char) : List Char :=
  match c with
  | '\x00' => ['\\', '0']
  | '\t' => ['\\', 't']
  | '\r' => ['\\', 'r']
  | '\n' => ['\\', 'n']
  | '\\' => ['\\', '\\']
  | '\x22' => ['\\', '\x22']
  | c => if isUnprintable c then byNumber c else [c]

def enclose (cs : List Char) : String :=
  String.ofList ('\x22' :: cs ++ ['\x22'])

def text (s : String) : String :=
  enclose (s.toList.flatMap escapeChar)

def upperOctet (octet : UInt8) : List Char :=
  '\\' :: 'x' :: upperHex 2 octet.toNat

def lowerOctet (octet : UInt8) : List Char :=
  ['\\', 'x', hexDigit (octet.toNat / 16), hexDigit octet.toNat]

/-- A quoted file name: ill-formed octets in uppercase hexadecimal. -/
def path (octets : Octets) : String :=
  enclose <| octets.pieces.flatMap fun
    | .char c => escapeChar c
    | .broken part => part.flatMap upperOctet

/-- One character of a quoted native string: controls by their octet, and beyond ASCII as in a
quoted text. -/
def escapeNative (c : Char) : List Char :=
  match c with
  | '\x00' => ['\\', '0']
  | '\t' => ['\\', 't']
  | '\r' => ['\\', 'r']
  | '\n' => ['\\', 'n']
  | '\\' => ['\\', '\\']
  | '\x22' => ['\\', '\x22']
  | '\x27' => ['\\', '\x27']
  | c =>
    if c.toNat < 0x20 || c.toNat = 0x7F then lowerOctet c.toNat.toUInt8
    else if c.toNat < 0x7F then [c]
    else escapeChar c

/-- A quoted native string: ill-formed octets in lowercase hexadecimal. -/
def native (octets : Octets) : String :=
  enclose <| octets.pieces.flatMap fun
    | .char c => escapeNative c
    | .broken part => part.flatMap lowerOctet

end HostEngine.Quoted
