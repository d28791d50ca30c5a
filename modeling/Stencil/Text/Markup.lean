import Stencil.Text.Search
import Stencil.Text.Digit

/-!
# Text for markup

Escaping of the five characters that have a meaning in markup, and the way back: removing tags and
comments, and replacing character references.
-/

namespace Stencil.Markup

/-- A character as it stands in markup. -/
def escapeChar (c : Char) : List Char :=
  match c with
  | '&' => "&amp;".toList
  | '<' => "&lt;".toList
  | '>' => "&gt;".toList
  | '\x27' => "&#39;".toList
  | '\x22' => "&#34;".toList
  | c => [c]

/-- The text as it stands in markup. -/
def escape (s : String) : String :=
  String.ofList (s.toList.flatMap escapeChar)

/-- Removes everything from an occurrence of `opening` to the next occurrence of `closing`, as long
as both are found; `fuel` bounds the number of removals. -/
def remove (opening closing : List Char) : (fuel : Nat) → List Char → List Char
  | 0, cs => cs
  | fuel + 1, cs =>
    match Text.cut? opening cs with
    | none => cs
    | some (before, rest) =>
      match Text.cut? closing (opening ++ rest) with
      | none => cs
      | some (_, after) => remove opening closing fuel (before ++ after)

/-- Character references by name. -/
def entities : List (String × Nat) := [
  ("amp", 38), ("AMP", 38), ("lt", 60), ("LT", 60), ("gt", 62), ("GT", 62), ("quot", 34),
  ("QUOT", 34), ("nbsp", 160), ("iexcl", 161), ("cent", 162), ("pound", 163), ("curren", 164),
  ("yen", 165), ("brvbar", 166), ("sect", 167), ("uml", 168), ("copy", 169), ("COPY", 169),
  ("ordf", 170), ("laquo", 171), ("not", 172), ("shy", 173), ("reg", 174), ("REG", 174),
  ("macr", 175), ("deg", 176), ("plusmn", 177), ("sup2", 178), ("sup3", 179), ("acute", 180),
  ("micro", 181), ("para", 182), ("middot", 183), ("cedil", 184), ("sup1", 185), ("ordm", 186),
  ("raquo", 187), ("frac14", 188), ("frac12", 189), ("frac34", 190), ("iquest", 191),
  ("Agrave", 192), ("Aacute", 193), ("Acirc", 194), ("Atilde", 195), ("Auml", 196),
  ("Aring", 197), ("AElig", 198), ("Ccedil", 199), ("Egrave", 200), ("Eacute", 201),
  ("Ecirc", 202), ("Euml", 203), ("Igrave", 204), ("Iacute", 205), ("Icirc", 206), ("Iuml", 207),
  ("ETH", 208), ("Ntilde", 209), ("Ograve", 210), ("Oacute", 211), ("Ocirc", 212),
  ("Otilde", 213), ("Ouml", 214), ("times", 215), ("Oslash", 216), ("Ugrave", 217),
  ("Uacute", 218), ("Ucirc", 219), ("Uuml", 220), ("Yacute", 221), ("THORN", 222),
  ("szlig", 223), ("agrave", 224), ("aacute", 225), ("acirc", 226), ("atilde", 227),
  ("auml", 228), ("aring", 229), ("aelig", 230), ("ccedil", 231), ("egrave", 232),
  ("eacute", 233), ("ecirc", 234), ("euml", 235), ("igrave", 236), ("iacute", 237),
  ("icirc", 238), ("iuml", 239), ("eth", 240), ("ntilde", 241), ("ograve", 242), ("oacute", 243),
  ("ocirc", 244), ("otilde", 245), ("ouml", 246), ("divide", 247), ("oslash", 248),
  ("ugrave", 249), ("uacute", 250), ("ucirc", 251), ("uuml", 252), ("yacute", 253),
  ("thorn", 254), ("yuml", 255)]

/-- Character references that need their semicolon. -/
def closedEntities : List (String × Nat) := [
  ("apos", 39), ("ndash", 8211), ("mdash", 8212), ("lsquo", 8216), ("rsquo", 8217),
  ("sbquo", 8218), ("ldquo", 8220), ("rdquo", 8221), ("bdquo", 8222), ("dagger", 8224),
  ("Dagger", 8225), ("bull", 8226), ("hellip", 8230), ("permil", 8240), ("prime", 8242),
  ("Prime", 8243), ("lsaquo", 8249), ("rsaquo", 8250), ("euro", 8364), ("trade", 8482),
  ("larr", 8592), ("uarr", 8593), ("rarr", 8594), ("darr", 8595), ("harr", 8596),
  ("minus", 8722), ("infin", 8734), ("ne", 8800), ("le", 8804), ("ge", 8805), ("sum", 8721),
  ("radic", 8730), ("asymp", 8776), ("equiv", 8801), ("ensp", 8194), ("emsp", 8195),
  ("thinsp", 8201), ("zwnj", 8204), ("zwj", 8205), ("check", 10003), ("star", 9734),
  ("hearts", 9829), ("clubs", 9827), ("spades", 9824), ("diams", 9830)]

/-- The character of a numbered reference. -/
def numbered (n : Nat) : List Char :=
  if n == 0 || (0xD800 ≤ n && n < 0xE000) || n > 0x10FFFF then [Char.ofNat 0xFFFD]
  else [Char.ofNat n]

/-- The longest name among the references that need no semicolon with which `cs` starts. -/
def openEntity? (cs : List Char) : Option (Nat × List Char) :=
  (entities.filterMap fun (name, c) =>
    (Text.strip? name.toList cs).map fun rest => (name.length, c, rest)).foldl
    (fun best (n, c, rest) => match best with
      | some (m, _, _) => if n > m then some (n, c, rest) else best
      | none => some (n, c, rest)) (none : Option (Nat × Nat × List Char))
    |>.map fun (_, c, rest) => (c, rest)

/-- A reference behind its ampersand. -/
def reference? (cs : List Char) : Option (List Char × List Char) :=
  let closed (rest : List Char) : List Char := match rest with
    | ';' :: rest => rest
    | _ => rest
  match cs with
  | '#' :: x :: rest =>
    if x == 'x' || x == 'X' then
      let ds := rest.takeWhile fun c => (Char.hexDigit? c).isSome
      if ds.isEmpty then none
      else
        let n := ds.foldl (fun n c => n * 16 + (Char.hexDigit? c).getD 0) 0
        some (numbered n, closed (rest.drop ds.length))
    else
      let ds := (x :: rest).takeWhile Char.isDigit
      if ds.isEmpty then none
      else
        let n := ds.foldl (fun n c => n * 10 + (c.toNat - 48)) 0
        some (numbered n, closed ((x :: rest).drop ds.length))
  | _ =>
    let name := cs.takeWhile Char.isAlphanum
    let rest := cs.drop name.length
    let exact := (entities ++ closedEntities).lookup (String.ofList name)
    match exact, rest with
    | some c, ';' :: rest => some ([Char.ofNat c], rest)
    | _, _ => (openEntity? cs).map fun (c, rest) => ([Char.ofNat c], rest)

/-- The text with its character references replaced. -/
def unescapeFrom : (fuel : Nat) → List Char → List Char
  | 0, cs => cs
  | _, [] => []
  | fuel + 1, '&' :: cs =>
    match reference? cs with
    | some (text, rest) => text ++ unescapeFrom fuel rest
    | none => '&' :: unescapeFrom fuel cs
  | fuel + 1, c :: cs => c :: unescapeFrom fuel cs

/-- The text of markup: without comments and tags, with single blanks between words, and with
character references replaced. -/
def stripTags (s : String) : String :=
  let cs := s.toList
  let cs := remove "<!--".toList "-->".toList cs.length cs
  let cs := remove ['<'] ['>'] cs.length cs
  let cs := Text.joinWith [' '] (Text.words cs)
  String.ofList (unescapeFrom (cs.length + 1) cs)

end Stencil.Markup
