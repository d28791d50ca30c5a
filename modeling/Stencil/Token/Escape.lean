import Stencil.Token.Fault
import Stencil.Text.Digit

/-!
# Escapes in text literals

A text literal is first written out in ASCII, every other character as a numbered escape, and then
read back escape by escape. A backslash in front of a character that is not ASCII thus escapes the
backslash of the numbered escape, and leaves its letters and digits behind.
-/

namespace Stencil.Escape

/-- The text in ASCII, other characters as numbered escapes. -/
def toAscii (cs : List Char) : List Char :=
  cs.flatMap fun c =>
    if c.toNat < 0x80 then [c]
    else if c.toNat < 0x100 then '\\' :: 'x' :: Text.hex 2 c.toNat
    else if c.toNat < 0x10000 then '\\' :: 'u' :: Text.hex 4 c.toNat
    else '\\' :: 'U' :: Text.hex 8 c.toNat

/-- The number written by the first `digits` characters, if they are all hexadecimal digits. -/
def hexNumber? (digits : Nat) (cs : List Char) : Option Nat :=
  if (cs.take digits).length == digits then
    (cs.take digits).foldl (fun n c => do some ((← n) * 16 + (← Char.hexDigit? c))) (some 0)
  else none

/-- The value of at most three octal digits. -/
def octal (cs : List Char) : Nat × List Char :=
  let digits := (cs.take 3).takeWhile fun c => '0' ≤ c && c ≤ '7'
  (digits.foldl (fun n d => n * 8 + (d.toNat - 48)) 0, cs.drop digits.length)

/-- The character of a one letter escape. -/
def letter? (c : Char) : Option Char :=
  match c with
  | '\\' => some '\\'
  | '\x27' => some '\x27'
  | '\x22' => some '\x22'
  | 'a' => some '\x07'
  | 'b' => some '\x08'
  | 'f' => some '\x0c'
  | 'n' => some '\n'
  | 'r' => some '\r'
  | 't' => some '\t'
  | 'v' => some '\x0b'
  | _ => none

/-- The characters that have a name of their own in escapes. -/
def named? (_name : List Char) : Option Char :=
  none

/-- Reads a text in ASCII with escapes. An unknown escape stands for itself; `fuel` is at least the
length of the text. -/
def decode : (fuel : Nat) → List Char → Except SyntaxFault (List Char)
  | 0, _ => .ok []
  | _, [] => .ok []
  | fuel + 1, '\\' :: c :: cs =>
    let numbered (digits : Nat) : Except SyntaxFault (List Char) :=
      match hexNumber? digits cs with
      | none => .error (.truncatedEscape c digits)
      | some n =>
        if n > 0x10FFFF then .error .illegalCharacter
        else (decode fuel (cs.drop digits)).map (Char.ofNat n :: ·)
    match letter? c with
    | some d => (decode fuel cs).map (d :: ·)
    | none =>
      if c == '\n' then decode fuel cs
      else if '0' ≤ c && c ≤ '7' then
        let (n, rest) := octal (c :: cs)
        (decode fuel rest).map (Char.ofNat n :: ·)
      else if c == 'x' then numbered 2
      else if c == 'u' then numbered 4
      else if c == 'U' then numbered 8
      else if c == 'N' then
        match cs with
        | '\x7b' :: rest =>
          let name := rest.takeWhile (· != '\x7d')
          match rest.drop name.length with
          | _ :: after =>
            if name.isEmpty then .error .malformedNameEscape
            else match named? name with
              | some d => (decode fuel after).map (d :: ·)
              | none => .error .unknownCharacterName
          | [] => .error .malformedNameEscape
        | _ => .error .malformedNameEscape
      else (decode fuel cs).map fun rest => '\\' :: c :: rest
  | fuel + 1, c :: cs => (decode fuel cs).map (c :: ·)

/-- The text that a literal's content denotes. -/
def read (cs : List Char) : Except SyntaxFault (List Char) :=
  let ascii := toAscii cs
  decode (ascii.length + 1) ascii

end Stencil.Escape
