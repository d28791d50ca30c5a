import Stencil.Text.Search
import Stencil.Text.Case

/-!
# Text encodings

Reading bytes as text. Every encoding either accepts a sequence of bytes as a whole or refuses it.
-/

namespace Stencil

/-- The encodings that files can have. -/
inductive Encoding where
  | utf8
  /-- UTF-8 whose byte order mark is dropped. -/
  | utf8Marked
  /-- UTF-16 in the byte order of its mark, low byte first without one. -/
  | utf16
  | utf16Little
  | utf16Big
  | latin1
  /-- Latin letters with typographic signs in the place of further control characters. -/
  | windows1252
  | ascii
deriving DecidableEq

namespace Encoding

/-- The encoding of a name; case does not matter, nor which of the two dashes is used. -/
def ofName? (name : String) : Option Encoding :=
  let name := String.ofList ((Text.lower name.toList).map fun c =>
    if c == '_' || c == ' ' then '-' else c)
  match name with
  | "utf-8" | "utf8" | "u8" | "utf" | "cp65001" => some utf8
  | "utf-8-sig" => some utf8Marked
  | "utf-16" | "utf16" | "u16" => some utf16
  | "utf-16-le" | "utf-16le" => some utf16Little
  | "utf-16-be" | "utf-16be" => some utf16Big
  | "latin-1" | "latin1" | "iso-8859-1" | "iso8859-1" | "8859" | "cp819" | "l1" | "latin" =>
    some latin1
  | "cp1252" | "windows-1252" | "1252" => some windows1252
  | "ascii" | "us-ascii" | "646" => some ascii
  | _ => none

/-- Groups of two bytes as numbers. -/
def units (bigEndian : Bool) : List UInt8 → Option (List Nat)
  | [] => some []
  | [_] => none
  | a :: b :: rest =>
    let n := if bigEndian then a.toNat * 256 + b.toNat else b.toNat * 256 + a.toNat
    (units bigEndian rest).map (n :: ·)

/-- The characters of 16 bit units; a surrogate stands only in a pair. -/
def ofUnits : List Nat → Option (List Char)
  | [] => some []
  | u :: rest =>
    if 0xD800 ≤ u && u < 0xDC00 then
      match rest with
      | v :: rest =>
        if 0xDC00 ≤ v && v < 0xE000 then
          (ofUnits rest).map (Char.ofNat (0x10000 + (u - 0xD800) * 1024 + (v - 0xDC00)) :: ·)
        else none
      | [] => none
    else if 0xDC00 ≤ u && u < 0xE000 then none
    else (ofUnits rest).map (Char.ofNat u :: ·)

/-- The characters of bytes in UTF-8. -/
def decodeUtf8 (bytes : List UInt8) : Option (List Char) :=
  (String.fromUTF8? (ByteArray.mk bytes.toArray)).map String.toList

/-- The signs of the Windows code page at 0x80 to 0x9F; zero stands for a byte without a meaning. -/
def windowsSigns : List Nat :=
  [0x20AC, 0, 0x201A, 0x192, 0x201E, 0x2026, 0x2020, 0x2021, 0x2C6, 0x2030, 0x160, 0x2039, 0x152, 0,
    0x17D, 0, 0, 0x2018, 0x2019, 0x201C, 0x201D, 0x2022, 0x2013, 0x2014, 0x2DC, 0x2122, 0x161, 0x203A,
    0x153, 0, 0x17E, 0x178]

/-- The character of a byte in the Windows code page. -/
def windowsChar (b : UInt8) : Option Char :=
  if 0x80 ≤ b && b < 0xA0 then
    match windowsSigns.getD (b.toNat - 0x80) 0 with
    | 0 => none
    | n => some (Char.ofNat n)
  else some (Char.ofNat b.toNat)

/-- The text that bytes stand for. -/
def decode (e : Encoding) (bytes : List UInt8) : Option (List Char) :=
  match e with
  | utf8 => decodeUtf8 bytes
  | utf8Marked =>
    match bytes with
    | 0xEF :: 0xBB :: 0xBF :: rest => decodeUtf8 rest
    | _ => decodeUtf8 bytes
  | utf16 =>
    match bytes with
    | 0xFF :: 0xFE :: rest => (units false rest).bind ofUnits
    | 0xFE :: 0xFF :: rest => (units true rest).bind ofUnits
    | _ => (units false bytes).bind ofUnits
  | utf16Little => (units false bytes).bind ofUnits
  | utf16Big => (units true bytes).bind ofUnits
  | latin1 => some (bytes.map fun b => Char.ofNat b.toNat)
  | windows1252 => bytes.mapM windowsChar
  | ascii =>
    if bytes.all (· < 0x80) then some (bytes.map fun b => Char.ofNat b.toNat) else none

end Encoding

end Stencil
