import Stencil.Node.Dump
import Stencil.Proofs.Text.Quoted

/-!
# The written form of a tree can be read back

A `Shape` is what the written form of a tree shows: words, quoted texts, and groups of them in
brackets. Whatever follows it, the written form of a shape shows where it ends and what it stands
for. So trees with the same written form have the same shape, and differ at most in numbers that are
written in the same way.

## Key results

- `Shape.write_append_inj`: a shape can be read back from its written form
- `Node.toList_dump`: the written form of a tree is that of its shape
- `Node.shape_eq_of_dump_eq`: trees with the same written form have the same shape
-/

namespace Stencil

/-- Kinds of brackets. -/
inductive Bracket where
  | round | square | curly
deriving DecidableEq

namespace Bracket

def opening : Bracket → Char
  | round => '('
  | square => '['
  | curly => '\x7b'

def closing : Bracket → Char
  | round => ')'
  | square => ']'
  | curly => '\x7d'

theorem opening_inj {b b' : Bracket} (h : b.opening = b'.opening) : b = b' := by
  cases b <;> cases b' <;> first | rfl | exact absurd h (by decide)

end Bracket

/-- What a written form shows. -/
inductive Shape where
  /-- A number or a word. -/
  | word (cs : List Char)
  /-- A quoted text. -/
  | text (cs : List Char)
  /-- Items in brackets, behind a word that may be empty. -/
  | group (head : List Char) (bracket : Bracket) (items : List Shape)
  /-- A single item in round brackets, followed by a comma. -/
  | single (item : Shape)
  /-- An item behind a quoted text and a colon. -/
  | entry (key : List Char) (value : Shape)

namespace Shape

/-- Whether a character can stand in a word. -/
def isPlain (c : Char) : Bool :=
  !(['(', ')', '[', ']', '\x7b', '\x7d', ',', ':', '\x27', '\x22'].contains c)

/-- Whether a character can follow an item. -/
def isStop (c : Char) : Bool :=
  [')', ']', '\x7d', ','].contains c

mutual

/-- The written form of a shape. -/
def write : Shape → List Char
  | word cs => cs
  | text cs => Text.quoted cs
  | group head b items => head ++ b.opening :: (writeAll items ++ [b.closing])
  | single item => '(' :: (write item ++ [',', ')'])
  | entry key value => Text.quoted key ++ ':' :: ' ' :: write value

/-- The written form of the items of a group. -/
def writeAll : List Shape → List Char
  | [] => []
  | s :: ss => write s ++ writeRest ss

/-- The written form of items that follow another. -/
def writeRest : List Shape → List Char
  | [] => []
  | s :: ss => ',' :: ' ' :: (write s ++ writeRest ss)

end

mutual

/-- Shapes of which every word is one. -/
def Valid : Shape → Prop
  | word cs => cs ≠ [] ∧ ∀ c ∈ cs, isPlain c = true
  | text _ => True
  | group head _ items => (∀ c ∈ head, isPlain c = true) ∧ ValidAll items
  | single item => Valid item
  | entry _ value => Valid value

def ValidAll : List Shape → Prop
  | [] => True
  | s :: ss => Valid s ∧ ValidAll ss

end

/-- What can follow an item: nothing, or something that starts with a mark. -/
def Stops (r : List Char) : Prop :=
  ∀ c, r.head? = some c → isStop c = true

theorem stops_cons {c : Char} (h : isStop c = true) (r : List Char) : Stops (c :: r) := by
  intro d hd
  cases hd
  exact h

theorem stops_nil : Stops [] :=
  fun _ h => nomatch h

theorem stops_closing (b : Bracket) (r : List Char) : Stops (b.closing :: r) :=
  stops_cons (by cases b <;> rfl) r

theorem stops_writeRest (ss : List Shape) (b : Bracket) (r : List Char) :
    Stops (writeRest ss ++ b.closing :: r) := by
  cases ss with
  | nil => rw [writeRest]; exact stops_closing b r
  | cons s ss => rw [writeRest]; exact stops_cons rfl _

/-- Words can be told from what follows them, if it does not go on like a word. -/
theorem plain_append_inj {as bs r r' : List Char} (has : ∀ c ∈ as, isPlain c = true)
    (hbs : ∀ c ∈ bs, isPlain c = true) (hr : ∀ c, r.head? = some c → isPlain c = false)
    (hr' : ∀ c, r'.head? = some c → isPlain c = false) (h : as ++ r = bs ++ r') :
    as = bs ∧ r = r' := by
  induction as generalizing bs with
  | nil =>
    cases bs with
    | nil => exact ⟨rfl, h⟩
    | cons b bs =>
      have hb := hr b (by rw [← List.nil_append r, h]; rfl)
      rw [hbs b List.mem_cons_self] at hb
      exact nomatch hb
  | cons a as ih =>
    cases bs with
    | nil =>
      have ha := hr' a (by rw [← List.nil_append r', ← h]; rfl)
      rw [has a List.mem_cons_self] at ha
      exact nomatch ha
    | cons b bs =>
      obtain ⟨rfl, hrest⟩ := List.cons.inj h
      obtain ⟨rfl, hr⟩ := ih (fun c hc => has c (List.mem_cons_of_mem _ hc))
        (fun c hc => hbs c (List.mem_cons_of_mem _ hc)) hrest
      exact ⟨rfl, hr⟩

/-- The word that a shape starts with. -/
def lead : Shape → List Char
  | word cs => cs
  | group head _ _ => head
  | _ => []

/-- What follows the first word of a shape. -/
def rest : Shape → List Char
  | word _ => []
  | text cs => Text.quoted cs
  | group _ b items => b.opening :: (writeAll items ++ [b.closing])
  | single item => '(' :: (write item ++ [',', ')'])
  | entry key value => Text.quoted key ++ ':' :: ' ' :: write value

theorem write_eq (s : Shape) : s.write = s.lead ++ s.rest := by
  cases s <;> simp [write, lead, rest]

theorem isPlain_lead {s : Shape} (h : s.Valid) : ∀ c ∈ s.lead, isPlain c = true := by
  cases s with
  | word cs => rw [Valid] at h; exact h.2
  | group head b items => rw [Valid] at h; exact h.1
  | _ => exact fun _ hc => nomatch hc

theorem isPlain_opening (b : Bracket) : isPlain b.opening = false := by
  cases b <;> rfl

theorem isStop_opening (b : Bracket) : isStop b.opening = false := by
  cases b <;> rfl

theorem isPlain_of_isStop {c : Char} (h : isStop c = true) : isPlain c = false := by
  simp only [isStop, isPlain, List.contains_eq_mem, List.mem_cons, List.not_mem_nil, or_false,
    decide_eq_true_eq, Bool.not_eq_false'] at h ⊢
  grind

/-- The mark of a quoted text. -/
theorem head_quoted (cs r : List Char) : ∃ m r', Text.quoted cs ++ r = m :: r' ∧
    (m = '\x22' ∨ m = '\x27') :=
  ⟨Text.quoteMark cs, _, rfl, Text.quoteMark_eq cs⟩

theorem not_isPlain_quoted (cs r : List Char) (c : Char)
    (h : (Text.quoted cs ++ r).head? = some c) : isPlain c = false := by
  obtain ⟨m, r', heq, hm⟩ := head_quoted cs r
  rw [heq] at h
  cases h
  obtain rfl | rfl := hm <;> rfl

theorem not_stops_quoted (cs r : List Char) : ¬ Stops (Text.quoted cs ++ r) := by
  intro hstops
  obtain ⟨m, r', heq, hm⟩ := head_quoted cs r
  rw [heq] at hstops
  have hstop := hstops m rfl
  obtain rfl | rfl := hm <;> exact nomatch hstop

theorem not_isPlain_rest (s : Shape) {r : List Char} (hr : Stops r) (c : Char)
    (h : (s.rest ++ r).head? = some c) : isPlain c = false := by
  cases s with
  | word cs => exact isPlain_of_isStop (hr c h)
  | text cs => exact not_isPlain_quoted cs r c h
  | group head b items =>
    cases h
    exact isPlain_opening b
  | single item =>
    cases h
    rfl
  | entry key value =>
    rw [rest, List.append_assoc] at h
    exact not_isPlain_quoted key _ c h

theorem Stops.ne_opening {r : List Char} (h : Stops r) (b : Bracket) (r' : List Char) :
    r ≠ b.opening :: r' := by
  rintro rfl
  have := h b.opening rfl
  rw [isStop_opening] at this
  exact nomatch this

/-- No item starts with something that can follow an item. -/
theorem not_stops_write {s : Shape} (h : s.Valid) (r : List Char) : ¬ Stops (s.write ++ r) := by
  intro hstops
  cases s with
  | word cs =>
    rw [Valid] at h
    obtain ⟨hne, hplain⟩ := h
    cases cs with
    | nil => exact hne rfl
    | cons c cs =>
      have := isPlain_of_isStop (hstops c rfl)
      rw [hplain c List.mem_cons_self] at this
      exact nomatch this
  | text cs =>
    rw [write] at hstops
    exact not_stops_quoted cs r hstops
  | group head b items =>
    rw [Valid] at h
    cases head with
    | nil => exact hstops.ne_opening b _ rfl
    | cons c cs =>
      have := isPlain_of_isStop (hstops c rfl)
      rw [h.1 c List.mem_cons_self] at this
      exact nomatch this
  | single item => exact nomatch hstops '(' rfl
  | entry key value =>
    rw [write, List.append_assoc] at hstops
    exact not_stops_quoted key _ hstops

theorem Stops.ne_quoted {r : List Char} (h : Stops r) (cs r' : List Char) :
    r ≠ Text.quoted cs ++ r' := by
  rintro rfl
  exact not_stops_quoted cs r' h

theorem quoted_ne_opening (cs r : List Char) (b : Bracket) (r' : List Char) :
    Text.quoted cs ++ r ≠ b.opening :: r' := by
  obtain ⟨m, rest, heq, hm⟩ := head_quoted cs r
  rw [heq]
  intro h
  obtain rfl | rfl := hm <;> cases b <;> exact absurd (List.cons.inj h).1 (by decide)

theorem writeRest_ne_single (ss : List Shape) (r r' : List Char) :
    writeRest ss ++ Bracket.round.closing :: r ≠ ',' :: ')' :: r' := by
  intro h
  cases ss with
  | nil =>
    rw [writeRest] at h
    exact absurd (List.cons.inj h).1 (by decide)
  | cons s ss =>
    rw [writeRest] at h
    exact absurd (List.cons.inj (List.cons.inj h).2).1 (by decide)

mutual

/-- A shape can be told from what follows it. -/
theorem write_append_inj : (s s' : Shape) → s.Valid → s'.Valid → {r r' : List Char} → Stops r →
    Stops r' → s.write ++ r = s'.write ++ r' → s = s' ∧ r = r'
  | s, s', hs, hs', r, r', hr, hr', h => by
    rw [write_eq, write_eq, List.append_assoc, List.append_assoc] at h
    obtain ⟨hlead, hrest⟩ := plain_append_inj (isPlain_lead hs) (isPlain_lead hs')
      (not_isPlain_rest s hr) (not_isPlain_rest s' hr') h
    -- both start with the same plain characters, and the first other one tells the kinds apart
    clear h
    match s with
    | word cs =>
      cases s' with
      | word cs' => exact ⟨congrArg word hlead, hrest⟩
      | text cs' => exact absurd hrest (hr.ne_quoted cs' r')
      | group head' b' items' => exact absurd hrest (hr.ne_opening b' _)
      | single item' => exact absurd hrest (hr.ne_opening .round _)
      | entry key' value' =>
        rw [rest, rest, List.append_assoc] at hrest
        exact absurd hrest (hr.ne_quoted key' _)
    | text cs =>
      cases s' with
      | word cs' => exact absurd hrest.symm (hr'.ne_quoted cs r)
      | text cs' =>
        obtain ⟨rfl, hrr⟩ := Text.quoted_append_inj hrest
        exact ⟨rfl, hrr⟩
      | group head' b' items' => exact absurd hrest (quoted_ne_opening cs r b' _)
      | single item' => exact absurd hrest (quoted_ne_opening cs r .round _)
      | entry key' value' =>
        rw [rest, rest, List.append_assoc] at hrest
        obtain ⟨-, hrr⟩ := Text.quoted_append_inj hrest
        exact nomatch hr ':' (by rw [hrr]; rfl)
    | group head b items =>
      cases s' with
      | word cs' => exact absurd hrest.symm (hr'.ne_opening b _)
      | text cs' => exact absurd hrest.symm (quoted_ne_opening cs' r' b _)
      | group head' b' items' =>
        rw [Valid] at hs hs'
        obtain ⟨hb, hitems⟩ := List.cons.inj hrest
        cases Bracket.opening_inj hb
        simp only [List.append_eq, List.append_assoc, List.cons_append, List.nil_append] at hitems
        obtain ⟨rfl, hrr⟩ := writeAll_append_inj items items' hs.2 hs'.2 b hitems
        exact ⟨by rw [show head = head' from hlead], hrr⟩
      | single item' =>
        simp only [Valid] at hs hs'
        obtain ⟨hb, hitems⟩ := List.cons.inj hrest
        cases show b = .round from Bracket.opening_inj hb
        simp only [List.append_eq, List.append_assoc, List.cons_append, List.nil_append] at hitems
        -- a list of one item has no comma behind it, as the tuple has
        match items with
        | [] =>
          rw [writeAll, List.nil_append] at hitems
          exact absurd (hitems ▸ stops_closing .round r) (not_stops_write hs' _)
        | x :: xs =>
          rw [ValidAll] at hs
          rw [writeAll, List.append_assoc] at hitems
          obtain ⟨-, hrr⟩ := write_append_inj x item' hs.2.1 hs' (stops_writeRest xs .round r)
            (stops_cons rfl _) hitems
          exact absurd hrr (writeRest_ne_single xs r r')
      | entry key' value' =>
        rw [rest, rest, List.append_assoc] at hrest
        exact absurd hrest.symm (quoted_ne_opening key' _ b _)
    | single item =>
      cases s' with
      | word cs' => exact absurd hrest.symm (hr'.ne_opening .round _)
      | text cs' => exact absurd hrest.symm (quoted_ne_opening cs' r' .round _)
      | group head' b' items' =>
        simp only [Valid] at hs hs'
        obtain ⟨hb, hitems⟩ := List.cons.inj hrest
        cases show .round = b' from Bracket.opening_inj hb
        simp only [List.append_eq, List.append_assoc, List.cons_append, List.nil_append] at hitems
        -- the same with the sides exchanged; the recursion is on the left one
        cases items' with
        | nil =>
          rw [writeAll, List.nil_append] at hitems
          exact absurd (hitems ▸ stops_closing .round r') (not_stops_write hs _)
        | cons x xs =>
          rw [ValidAll] at hs'
          rw [writeAll, List.append_assoc] at hitems
          obtain ⟨-, hrr⟩ := write_append_inj item x hs hs'.2.1 (stops_cons rfl _)
            (stops_writeRest xs .round r') hitems
          exact absurd hrr.symm (writeRest_ne_single xs r' r)
      | single item' =>
        simp only [Valid] at hs hs'
        have hitem := (List.cons.inj hrest).2
        simp only [List.append_eq, List.append_assoc, List.cons_append, List.nil_append] at hitem
        obtain ⟨rfl, hrr⟩ := write_append_inj item item' hs hs' (stops_cons rfl _)
          (stops_cons rfl _) hitem
        exact ⟨rfl, (List.cons.inj (List.cons.inj hrr).2).2⟩
      | entry key' value' =>
        rw [rest, rest, List.append_assoc] at hrest
        exact absurd hrest.symm (quoted_ne_opening key' _ .round _)
    | entry key value =>
      rw [rest, List.append_assoc] at hrest
      cases s' with
      | word cs' => exact absurd hrest.symm (hr'.ne_quoted key _)
      | text cs' =>
        obtain ⟨-, hrr⟩ := Text.quoted_append_inj hrest
        exact nomatch hr' ':' (by rw [← hrr]; rfl)
      | group head' b' items' => exact absurd hrest (quoted_ne_opening key _ b' _)
      | single item' => exact absurd hrest (quoted_ne_opening key _ .round _)
      | entry key' value' =>
        simp only [Valid] at hs hs'
        rw [rest, List.append_assoc] at hrest
        obtain ⟨rfl, hvalue⟩ := Text.quoted_append_inj hrest
        obtain ⟨rfl, hrr⟩ := write_append_inj value value' hs hs' hr hr'
          (List.cons.inj (List.cons.inj hvalue).2).2
        exact ⟨rfl, hrr⟩

theorem writeAll_append_inj : (ss ss' : List Shape) → ValidAll ss → ValidAll ss' → (b : Bracket) →
    {r r' : List Char} → writeAll ss ++ b.closing :: r = writeAll ss' ++ b.closing :: r' →
    ss = ss' ∧ r = r'
  | [], [], _, _, b, r, r', h => by
    rw [writeAll] at h
    exact ⟨rfl, (List.cons.inj h).2⟩
  | [], s' :: ss', _, hss', b, r, r', h => by
    rw [ValidAll] at hss'
    rw [writeAll, writeAll, List.append_assoc, List.nil_append] at h
    exact absurd (h ▸ stops_closing b r) (not_stops_write hss'.1 _)
  | s :: ss, [], hss, _, b, r, r', h => by
    rw [ValidAll] at hss
    rw [writeAll, writeAll, List.append_assoc, List.nil_append] at h
    exact absurd (h ▸ stops_closing b r') (not_stops_write hss.1 _)
  | s :: ss, s' :: ss', hss, hss', b, r, r', h => by
    rw [ValidAll] at hss hss'
    rw [writeAll, writeAll, List.append_assoc, List.append_assoc] at h
    obtain ⟨rfl, hrest⟩ := write_append_inj s s' hss.1 hss'.1 (stops_writeRest ss b r)
      (stops_writeRest ss' b r') h
    obtain ⟨rfl, hr⟩ := writeRest_append_inj ss ss' hss.2 hss'.2 b hrest
    exact ⟨rfl, hr⟩

theorem writeRest_append_inj : (ss ss' : List Shape) → ValidAll ss → ValidAll ss' → (b : Bracket) →
    {r r' : List Char} → writeRest ss ++ b.closing :: r = writeRest ss' ++ b.closing :: r' →
    ss = ss' ∧ r = r'
  | [], [], _, _, b, r, r', h => by
    rw [writeRest] at h
    exact ⟨rfl, (List.cons.inj h).2⟩
  | [], s' :: ss', _, _, b, r, r', h => by
    rw [writeRest, writeRest] at h
    exact absurd (List.cons.inj h).1 (by cases b <;> decide)
  | s :: ss, [], _, _, b, r, r', h => by
    rw [writeRest, writeRest] at h
    exact absurd (List.cons.inj h).1.symm (by cases b <;> decide)
  | s :: ss, s' :: ss', hss, hss', b, r, r', h => by
    rw [ValidAll] at hss hss'
    simp only [writeRest, List.cons_append, List.append_assoc, List.cons.injEq, true_and] at h
    obtain ⟨rfl, hrest⟩ := write_append_inj s s' hss.1 hss'.1 (stops_writeRest ss b r)
      (stops_writeRest ss' b r') h
    obtain ⟨rfl, hr⟩ := writeRest_append_inj ss ss' hss.2 hss'.2 b hrest
    exact ⟨rfl, hr⟩

end

end Shape

/-! ## Numbers -/

namespace Shape

/-- Whether a character can stand in a number: digits, signs, and the letters of `inf` and `nan`. -/
def isNumeral (c : Char) : Bool :=
  c.isDigit || ['.', 'e', '+', '-', 'i', 'n', 'f', 'a'].contains c

theorem isPlain_of_isNumeral {c : Char} (h : isNumeral c = true) : isPlain c = true := by
  simp only [isPlain, List.contains_eq_mem, Bool.not_eq_true', decide_eq_false_iff_not,
    List.mem_cons, List.not_mem_nil, or_false]
  rintro (rfl | rfl | rfl | rfl | rfl | rfl | rfl | rfl | rfl | rfl) <;> exact nomatch h

theorem isNumeral_of_isDigit {c : Char} (h : c.isDigit = true) : isNumeral c = true := by
  rw [isNumeral, h, Bool.true_or]

theorem isNumeral_of_mem_toDigits {n : Nat} {c : Char} (h : c ∈ Nat.toDigits 10 n) :
    isNumeral c = true :=
  isNumeral_of_isDigit (Nat.isDigit_of_mem_toDigits (by decide) (by decide) h)

theorem isNumeral_zeros {n : Nat} {c : Char} (h : c ∈ List.replicate n '0') :
    isNumeral c = true := by
  rw [List.eq_of_mem_replicate h]
  rfl

/-- An integer is written with digits, behind a sign if it is negative. -/
theorem isDigit_int (n : Int) : ∀ c ∈ (toString n).toList, c.isDigit = true ∨ c = '-' := by
  intro c hc
  rw [Int.toString_eq_repr, Int.repr_eq_if] at hc
  split at hc
  · rw [Nat.toList_repr] at hc
    exact .inl (Nat.isDigit_of_mem_toDigits (by decide) (by decide) hc)
  · rw [String.toList_append, Nat.toList_repr, List.mem_append] at hc
    obtain hc | hc := hc
    · exact .inr (List.mem_singleton.1 hc)
    · exact .inl (Nat.isDigit_of_mem_toDigits (by decide) (by decide) hc)

theorem isNumeral_int (n : Int) : ∀ c ∈ (toString n).toList, isNumeral c = true := by
  intro c hc
  obtain hdigit | rfl := isDigit_int n c hc
  · exact isNumeral_of_isDigit hdigit
  · rfl

theorem isNumeral_trimZeros {ds : List Char} (h : ∀ c ∈ ds, isNumeral c = true) :
    ∀ c ∈ Binary64.trimZeros ds, isNumeral c = true := by
  intro c hc
  unfold Binary64.trimZeros at hc
  split at hc
  · rw [List.mem_singleton.1 hc]
    rfl
  · exact h c (List.mem_reverse.1 ((List.dropWhile_sublist _).mem (List.mem_reverse.1 hc)))

theorem isNumeral_positioned {ds : List Char} (h : ∀ c ∈ ds, isNumeral c = true) (point : Int) :
    ∀ c ∈ Binary64.positioned ds point, isNumeral c = true := by
  have hpoint : isNumeral '.' = true := rfl
  have hdigit : isNumeral '0' = true := rfl
  simp only [Binary64.positioned]
  split
  · split
    · exact List.forall_mem_cons.2 ⟨hdigit, List.forall_mem_cons.2 ⟨hpoint,
        List.forall_mem_append.2 ⟨fun c => isNumeral_zeros, h⟩⟩⟩
    split
    · refine List.forall_mem_append.2 ⟨List.forall_mem_append.2 ⟨h, fun c => isNumeral_zeros⟩, ?_⟩
      exact List.forall_mem_cons.2 ⟨hpoint, List.forall_mem_singleton.2 hdigit⟩
    · refine List.forall_mem_append.2 ⟨fun c hc => h c (List.mem_of_mem_take hc), ?_⟩
      exact List.forall_mem_cons.2 ⟨hpoint, fun c hc => h c (List.mem_of_mem_drop hc)⟩
  · refine List.forall_mem_append.2 ⟨?_, List.forall_mem_cons.2 ⟨rfl, List.forall_mem_cons.2 ⟨?_, ?_⟩⟩⟩
    · split
      · exact h
      · rw [List.forall_mem_cons] at h ⊢
        exact ⟨h.1, List.forall_mem_cons.2 ⟨hpoint, h.2⟩⟩
      · exact h
    · split <;> rfl
    · exact List.forall_mem_append.2 ⟨fun c => isNumeral_zeros, fun c => isNumeral_of_mem_toDigits⟩

theorem isNumeral_float (x : Binary64) : ∀ c ∈ x.text.toList, isNumeral c = true := by
  unfold Binary64.text
  split
  · exact List.all_eq_true.1 (by decide)
  rw [String.toList_ofList]
  have hmagnitude : ∀ c ∈ (if x.isInfinite then ['i', 'n', 'f'] else if x.isZero then ['0', '.', '0']
      else Binary64.positioned (Binary64.trimZeros (Nat.toDigits 10 x.shortest.value))
        x.shortest.point), isNumeral c = true := by
    split
    · exact List.all_eq_true.1 (by decide)
    split
    · exact List.all_eq_true.1 (by decide)
    · exact isNumeral_positioned (isNumeral_trimZeros fun c => isNumeral_of_mem_toDigits) _
  split
  · exact List.forall_mem_cons.2 ⟨rfl, hmagnitude⟩
  · exact hmagnitude

theorem valid_int (n : Int) : (word (toString n).toList).Valid := by
  rw [Valid]
  refine ⟨?_, fun c hc => isPlain_of_isNumeral (isNumeral_int n c hc)⟩
  rw [Int.toString_eq_repr, Int.repr_eq_if]
  split
  · rw [Nat.toList_repr]
    exact Nat.toDigits_ne_nil
  · simp

theorem positioned_ne_nil (ds : List Char) (point : Int) : Binary64.positioned ds point ≠ [] := by
  simp only [Binary64.positioned]
  split
  · split
    · simp
    split <;> simp
  · simp

theorem valid_float (x : Binary64) : (word x.text.toList).Valid := by
  rw [Valid]
  refine ⟨?_, fun c hc => isPlain_of_isNumeral (isNumeral_float x c hc)⟩
  unfold Binary64.text
  split
  · decide
  rw [String.toList_ofList]
  split
  · simp
  split
  · simp
  split
  · simp
  · exact positioned_ne_nil _ _

end Shape

/-! ## Trees -/

/-- The shape of a tuple. -/
def Shape.ofTuple : List Shape → Shape
  | [s] => .single s
  | ss => .group [] .round ss

mutual

/-- What the literal of a value shows. -/
def Datum.shape : Datum → Shape
  | .null => .word "None".toList
  | .bool true => .word "True".toList
  | .bool false => .word "False".toList
  | .int n => .word (toString n).toList
  | .float x => .word x.text.toList
  | .text s => .text s.toList
  | .list items => .group [] .square (shapes items)
  | .object fields => .group [] .curly (entries fields)

def Datum.shapes : List Datum → List Shape
  | [] => []
  | d :: ds => d.shape :: shapes ds

def Datum.entries : List (String × Datum) → List Shape
  | [] => []
  | (k, d) :: ds => .entry k.toList d.shape :: entries ds

end

/-- The word that a node starts with. -/
def Kind.head (k : Kind) : List Char :=
  ("nodes." ++ k.label).toList

mutual

/-- What the written form of a node shows. -/
def Node.shape : Node → Shape
  | .mk kind fields _ => .group kind.head .round (Field.namedShapes fields)

def Field.namedShapes : List (String × Field) → List Shape
  | [] => []
  | (_, f) :: fs => f.shape :: Field.namedShapes fs

def Field.shape : Field → Shape
  | .node n => n.shape
  | .list items => .group [] .square (Field.shapes items)
  | .tuple items => .ofTuple (Field.shapes items)
  | .datum d => d.shape

def Field.shapes : List Field → List Shape
  | [] => []
  | f :: fs => f.shape :: Field.shapes fs

end

/-! ## Written forms -/

namespace Shape

theorem toList_commaJoin {parts : List String} {ss : List Shape}
    (h : parts.map String.toList = ss.map write) : (Datum.commaJoin parts).toList = writeAll ss := by
  -- with one part more than the commas, the induction starts at one
  have hcons : ∀ (p : String) (ps : List String) (s : Shape) (ss : List Shape),
      (p :: ps).map String.toList = (s :: ss).map write →
      (Datum.commaJoin (p :: ps)).toList = write s ++ writeRest ss := by
    intro p ps
    induction ps generalizing p with
    | nil =>
      intro s ss h
      cases ss with
      | nil =>
        rw [Datum.commaJoin, String.intercalate_singleton, writeRest, List.append_nil]
        exact (List.cons.inj h).1
      | cons _ _ => exact nomatch (List.cons.inj h).2
    | cons q qs ih =>
      intro s ss h
      obtain ⟨hp, hrest⟩ := List.cons.inj h
      cases ss with
      | nil => exact nomatch hrest
      | cons t ts =>
        have hq := ih q t ts hrest
        rw [Datum.commaJoin] at hq ⊢
        rw [String.intercalate_cons_cons, String.toList_append, String.toList_append, hq, hp,
          writeRest, List.append_assoc]
        rfl
  cases parts with
  | nil =>
    cases ss with
    | nil => rfl
    | cons _ _ => exact nomatch h
  | cons p ps =>
    cases ss with
    | nil => exact nomatch h
    | cons s ss => rw [hcons p ps s ss h, writeAll]

theorem toList_tupleText {parts : List String} {ss : List Shape}
    (h : parts.map String.toList = ss.map write) :
    (Field.tupleText parts).toList = (ofTuple ss).write := by
  match parts, ss, h with
  | [], [], _ => rfl
  | [p], [s], h =>
    simp only [Field.tupleText, ofTuple, write, String.toList_append, (List.cons.inj h).1]
    rfl
  | [_], _ :: _ :: _, h | _ :: _ :: _, [_], h => exact nomatch (List.cons.inj h).2
  | p :: q :: ps, s :: t :: ss, h =>
    simp only [Field.tupleText, ofTuple, write, String.toList_append, toList_commaJoin h]
    rfl

end Shape

mutual

theorem Datum.toList_literal : (d : Datum) → d.literal.toList = d.shape.write
  | .null | .bool true | .bool false | .int _ | .float _ => by
    simp only [Datum.literal, Datum.shape, Shape.write]
  | .text s => by
    simp only [Datum.literal, Datum.shape, Shape.write, quote, String.toList_ofList]
  | .list items => by
    simp only [Datum.literal, Datum.shape, Shape.write, String.toList_append,
      Shape.toList_commaJoin (Datum.map_toList_literals items)]
    rfl
  | .object fields => by
    simp only [Datum.literal, Datum.shape, Shape.write, String.toList_append,
      Shape.toList_commaJoin (Datum.map_toList_fieldLiterals fields)]
    rfl

theorem Datum.map_toList_literals : (ds : List Datum) →
    (Datum.literals ds).map String.toList = (Datum.shapes ds).map Shape.write
  | [] => by simp only [Datum.literals, Datum.shapes, List.map_nil]
  | d :: ds => by
    simp only [Datum.literals, Datum.shapes, List.map_cons, Datum.toList_literal d,
      Datum.map_toList_literals ds]

theorem Datum.map_toList_fieldLiterals : (fs : List (String × Datum)) →
    (Datum.fieldLiterals fs).map String.toList = (Datum.entries fs).map Shape.write
  | [] => by simp only [Datum.fieldLiterals, Datum.entries, List.map_nil]
  | (k, d) :: fs => by
    simp only [Datum.fieldLiterals, Datum.entries, List.map_cons, String.toList_append,
      Datum.toList_literal d, Datum.map_toList_fieldLiterals fs, Shape.write, quote,
      String.toList_ofList, List.append_assoc]
    rfl

end

mutual

/-- The written form of a tree is that of its shape. -/
theorem Node.toList_dump : (n : Node) → n.dump.toList = n.shape.write
  | .mk kind fields _ => by
    simp only [Node.dump, Node.shape, Shape.write, String.toList_append,
      Shape.toList_commaJoin (Node.map_toList_dumpFields fields), Kind.head, List.append_assoc]
    rfl

theorem Node.map_toList_dumpFields : (fs : List (String × Field)) →
    (Node.dumpFields fs).map String.toList = (Field.namedShapes fs).map Shape.write
  | [] => by simp only [Node.dumpFields, Field.namedShapes, List.map_nil]
  | (_, f) :: fs => by
    simp only [Node.dumpFields, Field.namedShapes, List.map_cons, Node.toList_dumpField f,
      Node.map_toList_dumpFields fs]

theorem Node.toList_dumpField : (f : Field) → (Node.dumpField f).toList = f.shape.write
  | .node n => by rw [Node.dumpField, Field.shape, Node.toList_dump n]
  | .list items => by
    simp only [Node.dumpField, Field.shape, Shape.write, String.toList_append,
      Shape.toList_commaJoin (Node.map_toList_dumpItems items)]
    rfl
  | .tuple items => by
    rw [Node.dumpField, Field.shape, Shape.toList_tupleText (Node.map_toList_dumpItems items)]
  | .datum d => by rw [Node.dumpField, Field.shape, Datum.toList_literal d]

theorem Node.map_toList_dumpItems : (fs : List Field) →
    (Node.dumpItems fs).map String.toList = (Field.shapes fs).map Shape.write
  | [] => by simp only [Node.dumpItems, Field.shapes, List.map_nil]
  | f :: fs => by
    simp only [Node.dumpItems, Field.shapes, List.map_cons, Node.toList_dumpField f,
      Node.map_toList_dumpItems fs]

end

/-! ## Reading back -/

mutual

theorem Datum.valid_shape : (d : Datum) → d.shape.Valid
  | .null | .bool true | .bool false => by
    rw [Datum.shape, Shape.Valid]
    exact ⟨by decide, List.all_eq_true.1 (by decide)⟩
  | .int n => by
    rw [Datum.shape]
    exact Shape.valid_int n
  | .float x => by
    rw [Datum.shape]
    exact Shape.valid_float x
  | .text s => by
    rw [Datum.shape, Shape.Valid]
    trivial
  | .list items => by
    rw [Datum.shape, Shape.Valid]
    exact ⟨(fun _ h => nomatch h), Datum.validAll_shapes items⟩
  | .object fields => by
    rw [Datum.shape, Shape.Valid]
    exact ⟨(fun _ h => nomatch h), Datum.validAll_entries fields⟩

theorem Datum.validAll_shapes : (ds : List Datum) → Shape.ValidAll (Datum.shapes ds)
  | [] => by
    rw [Datum.shapes, Shape.ValidAll]
    trivial
  | d :: ds => by
    rw [Datum.shapes, Shape.ValidAll]
    exact ⟨Datum.valid_shape d, Datum.validAll_shapes ds⟩

theorem Datum.validAll_entries : (fs : List (String × Datum)) → Shape.ValidAll (Datum.entries fs)
  | [] => by
    rw [Datum.entries, Shape.ValidAll]
    trivial
  | (_, d) :: fs => by
    rw [Datum.entries, Shape.ValidAll]
    refine ⟨?_, Datum.validAll_entries fs⟩
    simpa only [Shape.Valid] using Datum.valid_shape d

end

theorem Kind.isPlain_head (k : Kind) : ∀ c ∈ k.head, Shape.isPlain c = true := by
  have hall : k.head.all Shape.isPlain = true := by
    cases k <;> decide +kernel
  exact List.all_eq_true.1 hall

theorem Shape.valid_ofTuple {ss : List Shape} (h : ValidAll ss) : (ofTuple ss).Valid := by
  unfold ofTuple
  split
  · simp only [ValidAll] at h
    simpa only [Valid] using h.1
  · rw [Valid]
    exact ⟨(fun _ h => nomatch h), h⟩

mutual

theorem Node.valid_shape : (n : Node) → n.shape.Valid
  | .mk kind fields _ => by
    rw [Node.shape, Shape.Valid]
    exact ⟨kind.isPlain_head, Field.validAll_namedShapes fields⟩

theorem Field.validAll_namedShapes : (fs : List (String × Field)) →
    Shape.ValidAll (Field.namedShapes fs)
  | [] => by
    rw [Field.namedShapes, Shape.ValidAll]
    trivial
  | (_, f) :: fs => by
    rw [Field.namedShapes, Shape.ValidAll]
    exact ⟨Field.valid_shape f, Field.validAll_namedShapes fs⟩

theorem Field.valid_shape : (f : Field) → f.shape.Valid
  | .node n => by
    rw [Field.shape]
    exact Node.valid_shape n
  | .list items => by
    rw [Field.shape, Shape.Valid]
    exact ⟨(fun _ h => nomatch h), Field.validAll_shapes items⟩
  | .tuple items => by
    rw [Field.shape]
    exact Shape.valid_ofTuple (Field.validAll_shapes items)
  | .datum d => by
    rw [Field.shape]
    exact Datum.valid_shape d

theorem Field.validAll_shapes : (fs : List Field) → Shape.ValidAll (Field.shapes fs)
  | [] => by
    rw [Field.shapes, Shape.ValidAll]
    trivial
  | f :: fs => by
    rw [Field.shapes, Shape.ValidAll]
    exact ⟨Field.valid_shape f, Field.validAll_shapes fs⟩

end

/-- Trees with the same written form have the same shape. -/
theorem Node.shape_eq_of_dump_eq {n n' : Node} (h : n.dump = n'.dump) : n.shape = n'.shape := by
  have hwrite : n.shape.write ++ [] = n'.shape.write ++ [] := by
    rw [← Node.toList_dump, ← Node.toList_dump, h]
  exact (Shape.write_append_inj _ _ n.valid_shape n'.valid_shape Shape.stops_nil Shape.stops_nil
    hwrite).1

end Stencil
