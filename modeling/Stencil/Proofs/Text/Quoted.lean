import Stencil.Text.Quoted
import Stencil.Text.Digit

/-!
# Quoted texts can be read back

Whatever follows the literal of a text, it is clear where the literal ends and which text it stands
for. Each character of the text is written as itself or as an escape, and an escape tells by its
second character how long it is.

## Key results

- `Text.hex_append_inj`: numbers of a fixed width
- `Text.Spelling.append_inj`: characters
- `Text.quoted_append_inj`: texts
-/

namespace Stencil.Text

/-! ## Numbers -/

/-- The number that hexadecimal digits stand for. -/
def hexValue (cs : List Char) : Nat :=
  cs.foldl (fun n c => 16 * n + (Char.hexDigit? c).getD 0) 0

theorem hexDigit?_digitChar {d : Nat} (h : d < 16) : Char.hexDigit? d.digitChar = some d := by
  have hall : ∀ d : Fin 16, Char.hexDigit? (Nat.digitChar d.1) = some d.1 := by decide
  exact hall ⟨d, h⟩

theorem hexValue_toDigits (n : Nat) : hexValue (Nat.toDigits 16 n) = n := by
  induction n using Nat.strongRecOn with
  | _ n ih =>
    by_cases hn : n < 16
    · rw [Nat.toDigits_of_lt_base hn]
      simp [hexValue, hexDigit?_digitChar hn]
    · rw [Nat.toDigits_of_base_le (by decide) (by omega), hexValue, List.foldl_append]
      have hlt : n / 16 < n := by omega
      change 16 * hexValue (Nat.toDigits 16 (n / 16)) + _ = n
      rw [ih _ hlt, hexDigit?_digitChar (Nat.mod_lt n (by decide)), Option.getD_some]
      omega

theorem hexValue_hex (width n : Nat) : hexValue (hex width n) = n := by
  have hzeros : ∀ k, (List.replicate k '0').foldl
      (fun n c => 16 * n + (Char.hexDigit? c).getD 0) 0 = 0 := by
    intro k
    induction k with
    | zero => rfl
    | succ k ih => exact ih
  rw [hex, hexValue, List.foldl_append, hzeros]
  exact hexValue_toDigits n

/-- Numbers are filled up to the given width, if they fit into it. -/
theorem length_hex {width n : Nat} (hn : (Nat.toDigits 16 n).length ≤ width) :
    (hex width n).length = width := by
  simp only [hex, List.length_append, List.length_replicate]
  omega

/-- Numbers of one width can be told from what follows them. -/
theorem hex_append_inj {width n n' : Nat} (hn : (Nat.toDigits 16 n).length ≤ width)
    (hn' : (Nat.toDigits 16 n').length ≤ width) {r r' : List Char}
    (h : hex width n ++ r = hex width n' ++ r') : n = n' ∧ r = r' := by
  have hlen : (hex width n).length = (hex width n').length := by
    rw [length_hex hn, length_hex hn']
  obtain ⟨hhex, hr⟩ := List.append_inj h hlen
  refine ⟨?_, hr⟩
  rw [← hexValue_hex width n, hhex, hexValue_hex]

/-! ## Characters -/

/-- The character that an escape with one letter stands for. -/
def escaped (d : Char) : Char :=
  if d = 't' then '\t' else if d = 'n' then '\n' else if d = 'r' then '\r' else d

/-- The width of an escape with a number. -/
def escapeWidth (d : Char) : Option Nat :=
  if d = 'x' then some 2 else if d = 'u' then some 4 else if d = 'U' then some 8 else none

/-- The ways in which a character is written. -/
inductive Spelling (mark c : Char) : List Char → Prop
  | plain (hmark : c ≠ mark) (hslash : c ≠ '\\') : Spelling mark c [c]
  | letter (d : Char) (hd : escaped d = c) (hwidth : escapeWidth d = none) :
      Spelling mark c ['\\', d]
  | number (d : Char) {width : Nat} (hwidth : escapeWidth d = some width)
      (hc : (Nat.toDigits 16 c.toNat).length ≤ width) : Spelling mark c ('\\' :: d :: hex width c.toNat)

theorem spelling_quotedChar {mark : Char} (hmark : mark = '\x22' ∨ mark = '\x27') (c : Char) :
    Spelling mark c (quotedChar mark c) := by
  unfold quotedChar
  split
  -- marks and backslashes stand behind a backslash
  · rename_i h
    rw [Bool.or_eq_true, beq_iff_eq, beq_iff_eq] at h
    have hc : c = '\x22' ∨ c = '\x27' ∨ c = '\\' := by
      obtain rfl | rfl := h
      · exact hmark.imp_right .inl
      · exact .inr (.inr rfl)
    obtain rfl | rfl | rfl := hc <;> exact .letter _ rfl rfl
  rename_i hplain
  rw [Bool.or_eq_true, beq_iff_eq, beq_iff_eq, not_or] at hplain
  split
  · rename_i h
    exact .letter 't' (beq_iff_eq.1 h).symm rfl
  split
  · rename_i h
    exact .letter 'n' (beq_iff_eq.1 h).symm rfl
  split
  · rename_i h
    exact .letter 'r' (beq_iff_eq.1 h).symm rfl
  -- what can be printed stands for itself, and all else is written by its number
  split
  · exact .plain hplain.1 hplain.2
  split
  · rename_i h
    exact .number 'x' rfl ((Nat.length_toDigits_le_iff (by decide) (by decide)).2 h)
  split
  · rename_i h
    exact .number 'u' rfl ((Nat.length_toDigits_le_iff (by decide) (by decide)).2 h)
  · have hlt : c.toNat < 0x110000 := by
      have := c.valid
      unfold Char.toNat
      simp only [UInt32.isValidChar, Nat.isValidChar] at this
      omega
    refine .number 'U' rfl ((Nat.length_toDigits_le_iff (by decide) (by decide)).2 ?_)
    exact Nat.lt_trans hlt (by decide)

/-- A written character can be told from what follows it. -/
theorem Spelling.append_inj {mark c c' : Char} {cs cs' r r' : List Char}
    (h : Spelling mark c cs) (h' : Spelling mark c' cs') (heq : cs ++ r = cs' ++ r') :
    c = c' ∧ r = r' := by
  cases h with
  | plain _ hslash =>
    cases h' with
    | plain => exact ⟨(List.cons.inj heq).1, (List.cons.inj heq).2⟩
    | letter | number => exact absurd (List.cons.inj heq).1 hslash
  | letter d hd hwidth =>
    cases h' with
    | plain _ hslash' => exact absurd (List.cons.inj heq).1.symm hslash'
    | letter d' hd' =>
      obtain ⟨rfl, hr⟩ := List.cons.inj (List.cons.inj heq).2
      exact ⟨hd.symm.trans hd', hr⟩
    -- a letter behind the backslash either stands for a character or tells how many digits follow
    | number d' hwidth' =>
      obtain ⟨rfl, -⟩ := List.cons.inj (List.cons.inj heq).2
      exact absurd (hwidth.symm.trans hwidth') nofun
  | number d hwidth hc =>
    cases h' with
    | plain _ hslash' => exact absurd (List.cons.inj heq).1.symm hslash'
    | letter d' hd' hwidth' =>
      obtain ⟨rfl, -⟩ := List.cons.inj (List.cons.inj heq).2
      exact absurd (hwidth'.symm.trans hwidth) nofun
    | number d' hwidth' hc' =>
      obtain ⟨rfl, hrest⟩ := List.cons.inj (List.cons.inj heq).2
      cases Option.some.inj (hwidth.symm.trans hwidth')
      obtain ⟨hn, hr⟩ := hex_append_inj hc hc' hrest
      exact ⟨Char.toNat_inj.1 hn, hr⟩

/-- A written character does not start with the mark that ends a text. -/
theorem Spelling.ne_mark {mark c : Char} (hmark : mark ≠ '\\') {cs r r' : List Char}
    (h : Spelling mark c cs) : cs ++ r ≠ mark :: r' := by
  intro heq
  cases h with
  | plain hne => exact hne (List.cons.inj heq).1
  | letter | number => exact hmark (List.cons.inj heq).1.symm

/-! ## Texts -/

theorem flatMap_quotedChar_inj {mark : Char} (hmark : mark = '\x22' ∨ mark = '\x27')
    {cs cs' r r' : List Char}
    (h : cs.flatMap (quotedChar mark) ++ mark :: r = cs'.flatMap (quotedChar mark) ++ mark :: r') :
    cs = cs' ∧ r = r' := by
  have hslash : mark ≠ '\\' := by
    obtain rfl | rfl := hmark <;> decide
  induction cs generalizing cs' with
  | nil =>
    cases cs' with
    | nil => exact ⟨rfl, (List.cons.inj h).2⟩
    | cons c' cs' =>
      rw [List.flatMap_cons, List.append_assoc] at h
      exact absurd h.symm ((spelling_quotedChar hmark c').ne_mark hslash)
  | cons c cs ih =>
    cases cs' with
    | nil =>
      rw [List.flatMap_cons, List.append_assoc] at h
      exact absurd h ((spelling_quotedChar hmark c).ne_mark hslash)
    | cons c' cs' =>
      rw [List.flatMap_cons, List.flatMap_cons, List.append_assoc, List.append_assoc] at h
      obtain ⟨rfl, hrest⟩ :=
        (spelling_quotedChar hmark c).append_inj (spelling_quotedChar hmark c') h
      obtain ⟨rfl, hr⟩ := ih hrest
      exact ⟨rfl, hr⟩

theorem quoteMark_eq (cs : List Char) : quoteMark cs = '\x22' ∨ quoteMark cs = '\x27' := by
  unfold quoteMark
  split
  · exact .inl rfl
  · exact .inr rfl

/-- The literal of a text can be told from what follows it. -/
theorem quoted_append_inj {cs cs' r r' : List Char} (h : quoted cs ++ r = quoted cs' ++ r') :
    cs = cs' ∧ r = r' := by
  simp only [quoted, List.cons_append, List.append_assoc, List.nil_append] at h
  obtain ⟨hmark, hrest⟩ := List.cons.inj h
  rw [← hmark] at hrest
  exact flatMap_quotedChar_inj (quoteMark_eq cs) hrest

end Stencil.Text
