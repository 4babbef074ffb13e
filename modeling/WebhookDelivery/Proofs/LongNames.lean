import WebhookDelivery.Proofs.UrlText

/-!
# Names that grow too long

On the wire a label beyond ASCII is written in Punycode (`to_string`). The reader takes labels of up
to a thousand characters, but of Punycode it takes no more than two thousand, and a thousand
characters can need more than that. A URL with such a label is read, and its own text is not read
again.

How long a label becomes is bounded from below without following the bias. The characters of an
ascending label are placed in the order in which they stand, so that each has at least as many
before it as its place says; and whatever the bias is, a delta of 26 has two digits, and one of 911
has three.

* `Punycode.leastDigits_le` — how many digits a delta takes at least.
* `Punycode.digitsFrom_le_encode` — how long an ascending label becomes at least.
* `toAscii?_of_han` — Han characters are written in Punycode, as nothing has to be looked up.
* `toAscii?_of_long` — what is too long has no ASCII form.
* `Url.parse_of_han`, `Url.not_parse_text` — what is read once, but not twice.
-/

namespace WebhookDelivery.Domain

open Unicode

namespace Punycode

-- ---------------------------------------------------------------------------
-- Digits
-- ---------------------------------------------------------------------------

/-- How many digits a delta takes at any bias, up to three. -/
def leastDigits (q : Nat) : Nat :=
  if q < 26 then 1 else if q < 911 then 2 else 3

/-- A greater delta takes no fewer digits. -/
theorem leastDigits_mono {q q' : Nat} (h : q ≤ q') : leastDigits q ≤ leastDigits q' := by
  grind [leastDigits]

/-- After its first digit a delta of 911 leaves one of 26 at least. -/
theorem leastDigits_le_succ {q left : Nat} (h : 911 ≤ q → 26 ≤ left) :
    leastDigits q ≤ leastDigits left + 1 := by
  grind [leastDigits]

/-- A delta takes at least so many digits, at any bias and from any digit on. The induction follows
`deltaDigits`. -/
theorem leastDigits_le (bias k q : Nat) : leastDigits q ≤ (deltaDigits bias k q).length := by
  induction k, q using deltaDigits.induct bias with
  | case1 k q t hlt =>
    have hle := threshold_le k bias
    rw [deltaDigits, if_pos hlt, leastDigits, if_pos (by omega)]
    exact Nat.le_refl 1
  | case2 k q t hge ih =>
    have hpos := threshold_pos k bias
    have hle := threshold_le k bias
    rw [deltaDigits, if_neg hge, List.length_cons]
    -- What is left of 911 after the first digit is 26 at least, whichever threshold that had.
    have hleft : 911 ≤ q → 26 ≤ (q - t) / (36 - t) := by
      intro hq
      refine (Nat.le_div_iff_mul_le (by omega)).mpr ?_
      omega
    exact Nat.le_trans (leastDigits_le_succ hleft) (Nat.add_le_add_right ih 1)

-- ---------------------------------------------------------------------------
-- An ascending label
-- ---------------------------------------------------------------------------

/-- Whether the characters of a label ascend. -/
def Ascending (label : List Char) : Prop :=
  label.Pairwise fun c d => c.toNat < d.toNat

/-- How much an encoder has written. -/
def Encoder.written (e : Encoder) : Nat :=
  e.parts.flatten.length

/-- The order of the parts, of which the last is the first, does not matter to that. -/
theorem Encoder.written_eq (e : Encoder) : e.parts.reverse.flatten.length = e.written := by
  rw [written, List.length_flatten, List.map_reverse, List.sum_reverse, List.length_flatten]

/-- Smaller characters are counted. -/
theorem foldl_pass_smaller {basic m : Nat} {e : Encoder} {cs : List Char}
    (h : ∀ c ∈ cs, c.toNat < m) :
    cs.foldl (Encoder.pass basic m) e = { e with delta := e.delta + cs.length } := by
  induction cs generalizing e with
  | nil => rfl
  | cons c cs ih =>
    obtain ⟨hc, hcs⟩ := List.forall_mem_cons.mp h
    rw [List.foldl_cons, ih hcs, Encoder.pass, if_pos hc, List.length_cons]
    simp only [Nat.add_assoc, Nat.add_comm 1]

/-- Greater characters are passed over. -/
theorem foldl_pass_greater {basic m : Nat} {e : Encoder} {cs : List Char}
    (h : ∀ c ∈ cs, m < c.toNat) : cs.foldl (Encoder.pass basic m) e = e := by
  induction cs with
  | nil => rfl
  | cons c cs ih =>
    obtain ⟨hc, hcs⟩ := List.forall_mem_cons.mp h
    rw [List.foldl_cons, Encoder.pass, if_neg (by omega), if_neg (by omega), ih hcs]

/-- In an ascending label a character is placed after all those that stand before it. -/
theorem le_written_foldl {basic : Nat} {before after : List Char} {c : Char} (e : Encoder)
    (h : Ascending (before ++ c :: after)) :
    e.written + leastDigits before.length
      ≤ ((before ++ c :: after).foldl (Encoder.pass basic c.toNat) e).written := by
  obtain ⟨-, hafter, hbefore⟩ := List.pairwise_append.mp h
  have hsmaller : ∀ d ∈ before, d.toNat < c.toNat := fun d hd =>
    hbefore d hd c List.mem_cons_self
  have hgreater : ∀ d ∈ after, c.toNat < d.toNat := (List.pairwise_cons.mp hafter).1
  rw [List.foldl_append, foldl_pass_smaller hsmaller, List.foldl_cons, foldl_pass_greater hgreater,
    Encoder.pass, if_neg (Nat.lt_irrefl _), if_pos rfl]
  -- the delta counts what stands before, and perhaps more from earlier passes
  have hdigits := leastDigits_le e.bias 36 (e.delta + before.length)
  have hmono : leastDigits before.length ≤ leastDigits (e.delta + before.length) :=
    leastDigits_mono (Nat.le_add_left _ _)
  simp only [Encoder.written, List.flatten_cons, List.length_append]
  omega

/-- How many digits so many characters take at least that have so many before them. -/
def digitsFrom (before : Nat) : Nat → Nat
  | 0 => 0
  | count + 1 => leastDigits before + digitsFrom (before + 1) count

/-- Digits are counted part by part. -/
theorem digitsFrom_add (before m n : Nat) :
    digitsFrom before (m + n) = digitsFrom before m + digitsFrom (before + m) n := by
  induction m generalizing before with
  | zero => simp [digitsFrom]
  | succ m ih => rw [Nat.succ_add, digitsFrom, ih, digitsFrom, Nat.succ_add_eq_add_succ, Nat.add_assoc]

/-- None of them takes less than the first. -/
theorem mul_le_digitsFrom (before count : Nat) :
    leastDigits before * count ≤ digitsFrom before count := by
  induction count generalizing before with
  | zero => exact Nat.le_refl 0
  | succ count ih =>
    have hmono : leastDigits before ≤ leastDigits (before + 1) := leastDigits_mono (Nat.le_succ _)
    rw [digitsFrom, Nat.mul_succ, Nat.add_comm]
    exact Nat.add_le_add_left (Nat.le_trans (Nat.mul_le_mul_right count hmono) (ih _)) _

/-- All characters of an ascending label take at least so many digits together. The induction is on
what is still to be placed; all that stands before it is placed already. -/
theorem le_written_placeAll {basic : Nat} {before rest : List Char} (n : Nat) (e : Encoder)
    (h : Ascending (before ++ rest)) :
    e.written + digitsFrom before.length rest.length
      ≤ (placeAll (before ++ rest) basic (rest.map Char.toNat) n e).written := by
  induction rest generalizing before n e with
  | nil => exact Nat.le_refl _
  | cons c rest ih =>
    let moved : Encoder := { e with delta := e.delta + (c.toNat - n) * (e.handled + 1) }
    let passed := (before ++ c :: rest).foldl (Encoder.pass basic c.toNat) moved
    have hfirst : e.written + leastDigits before.length ≤ passed.written :=
      le_written_foldl moved h
    -- the character that has been placed goes over to those before
    have hsplit : before ++ c :: rest = (before ++ [c]) ++ rest := by simp
    have hrest := ih (c.toNat + 1) { passed with delta := passed.delta + 1 } (hsplit ▸ h)
    rw [← hsplit, List.length_append, List.length_singleton] at hrest
    rw [List.map_cons, placeAll, List.length_cons, digitsFrom]
    exact Nat.le_trans (by omega) (Nat.le_trans (Nat.add_le_add_right hfirst _) hrest)

/-- What is less than all is inserted in front. -/
theorem insertAscending_of_lt {x : Nat} {xs : List Nat} (h : ∀ y ∈ xs, x < y) :
    insertAscending x xs = x :: xs := by
  cases xs with
  | nil => rfl
  | cons y ys => rw [insertAscending, if_pos (h y List.mem_cons_self)]

/-- An ascending label is in the order in which its characters are placed. -/
theorem foldr_insertAscending {cs : List Char} (h : Ascending cs) :
    cs.foldr (fun c ms => insertAscending c.toNat ms) [] = cs.map Char.toNat := by
  induction cs with
  | nil => rfl
  | cons c cs ih =>
    obtain ⟨hfirst, hrest⟩ := List.pairwise_cons.mp h
    rw [List.foldr_cons, ih hrest, List.map_cons, insertAscending_of_lt]
    intro y hy
    obtain ⟨d, hd, rfl⟩ := List.mem_map.mp hy
    exact hfirst d hd

/-- An ascending label that begins with ASCII becomes so long at least. -/
theorem digitsFrom_le_encode {basic rest : List Char} (hbasic : ∀ c ∈ basic, isBasic c = true)
    (hrest : ∀ c ∈ rest, isBasic c = false) (h : Ascending (basic ++ rest)) :
    basic.length + digitsFrom basic.length rest.length ≤ (encode (basic ++ rest)).length := by
  -- ASCII is written first, as it stands
  have hsmall : (basic ++ rest).filter isBasic = basic := by
    rw [List.filter_append, List.filter_eq_self.mpr hbasic, List.filter_eq_nil_iff.mpr,
      List.append_nil]
    intro c hc
    rw [hrest c hc]
    exact Bool.false_ne_true
  have hlarge : (basic ++ rest).filter (!isBasic ·) = rest := by
    rw [List.filter_append, List.filter_eq_nil_iff.mpr, List.nil_append, List.filter_eq_self.mpr]
    · exact fun c hc => by rw [hrest c hc]; rfl
    · exact fun c hc => by rw [hbasic c hc]; decide
  have hplaced := @le_written_placeAll basic.length basic rest 0x80 ⟨[], 0, 72, basic.length⟩ h
  have hnone : Encoder.written ⟨[], 0, 72, basic.length⟩ = 0 := rfl
  simp only [encode, hsmall, hlarge, foldr_insertAscending (List.pairwise_append.mp h).2.1,
    List.length_append, Encoder.written_eq]
  omega

end Punycode

-- ---------------------------------------------------------------------------
-- Labels of Han characters
-- ---------------------------------------------------------------------------

/-- Whether a character is a digit, a small letter or a Han character. -/
def IsPlainHan (c : Char) : Prop :=
  IsSmall c ∨ isHan c = true

theorem le_of_isHan {c : Char} (h : isHan c = true) : 0x4e00 ≤ c.toNat ∧ c.toNat ≤ 0x9fff := by
  simpa [isHan] using h

theorem ne_of_isHan {c d : Char} (h : isHan c = true) (hd : d.toNat < 0x80) : c ≠ d := by
  rintro rfl
  have := (le_of_isHan h).1
  omega

section PlainHan

variable {c : Char} {label : List Char}

/-- Such a character is mapped to itself. -/
theorem IsPlainHan.mapPoint?_eq (h : IsPlainHan c) : mapPoint? c = some [c.toNat] := by
  rcases h with hsmall | hhan
  · exact mapPoint?_of_ascii hsmall.settled.ascii hsmall.settled.lower
  · have hbeyond : ¬ c.toNat < 0x80 := by
      have := (le_of_isHan hhan).1
      omega
    rw [mapPoint?, if_neg hbeyond, hhan, Bool.true_or, if_pos rfl]

/-- Such a label is in normal form. -/
theorem normalForm_of_han (h : ∀ c ∈ label, IsPlainHan c) : normalForm label = label := by
  refine if_pos (List.all_eq_true.mpr fun c hc => Bool.or_eq_true_iff.mpr ?_)
  refine (h c hc).imp (fun hsmall => decide_eq_true ?_) id
  have := hsmall.settled.ascii
  omega

/-- No character of ASCII but digits and small letters is among them. -/
theorem IsPlainHan.ne (h : IsPlainHan c) {d : Char} (hd : d.toNat < 0x80) (hother : ¬ IsSmall d) :
    c ≠ d := by
  rcases h with hsmall | hhan
  · rintro rfl
    exact hother hsmall
  · exact ne_of_isHan hhan hd

/-- Such a character may stand in a name. -/
theorem IsPlainHan.not_forbidden (h : IsPlainHan c) : isForbidden c = false := by
  rcases h with hsmall | hhan
  · exact hsmall.settled.allowed
  · have hge := (le_of_isHan hhan).1
    have hmarks : "%#/:<>?@[\\]^|".toList.all (·.toNat < 0x80) = true := by decide
    have hother : ("%#/:<>?@[\\]^|".toList.contains c) = false := by
      rw [← Bool.not_eq_true, List.contains_iff_mem]
      exact fun hmem => ne_of_isHan hhan (of_decide_eq_true (List.all_eq_true.mp hmarks c hmem)) rfl
    simp only [isForbidden, hother, Bool.or_false, Bool.or_eq_false_iff, decide_eq_false_iff_not,
      beq_eq_false_iff_ne]
    omega

/-- Such a character is not written from right to left. -/
theorem IsPlainHan.not_rightward (h : IsPlainHan c) : isRightward (Direction.of c) = false := by
  rcases h with hsmall | hhan
  · exact hsmall.settled.notRightward
  · rw [Direction.of, hhan, Bool.or_true, if_pos rfl]
    rfl

/-- Without joiners there are none that do not show. -/
theorem joinersShow_of_none (before : List Char) (h : ∀ c ∈ label, c ≠ joiner ∧ c ≠ nonJoiner) :
    joinersShow before label = true := by
  induction label generalizing before with
  | nil => rfl
  | cons c label ih =>
    obtain ⟨⟨hjoiner, hnon⟩, hlabel⟩ := List.forall_mem_cons.mp h
    rw [joinersShow, if_neg hjoiner, if_neg hnon, ih _ hlabel]
    rfl

/-- Such a character is no joiner. -/
theorem IsPlainHan.ne_joiner (h : IsPlainHan c) : c ≠ joiner ∧ c ≠ nonJoiner := by
  have hcode : joiner.toNat = 0x200d ∧ nonJoiner.toNat = 0x200c := by decide
  constructor <;> rintro rfl <;> rcases h with hsmall | hhan
  · have := hsmall.settled.ascii
    omega
  · have := (le_of_isHan hhan).1
    omega
  · have := hsmall.settled.ascii
    omega
  · have := (le_of_isHan hhan).1
    omega

/-- Such a label is shown as it is, if it is not too long and does not begin with a mark. -/
theorem unicodeLabel?_of_han (h : ∀ c ∈ label, IsPlainHan c) (hlength : label.length ≤ maxLength)
    (hhead : label.head?.any isMark = false) : unicodeLabel? label = some label := by
  -- the mark of a Punycode label has a hyphen, which the label has not
  have hmark : asciiMark.isPrefixOf label = false := by
    rw [← Bool.not_eq_true, List.isPrefixOf_iff_prefix]
    intro hprefix
    have hmem : '-' ∈ label := hprefix.subset (by decide)
    exact (h '-' hmem).ne (by decide) (by decide) rfl
  have hsound : isSound label = true := by
    rw [isSound, joinersShow_of_none [] fun c hc => (h c hc).ne_joiner, hhead,
      decide_eq_true hlength]
    rfl
  rw [unicodeLabel?, hmark, if_neg Bool.false_ne_true, hsound, Bool.or_true, if_pos rfl]

/-- Han characters, digits and small letters are written in Punycode as they stand. -/
theorem toAscii?_of_han (h : ∀ c ∈ label, IsPlainHan c) (hlength : label.length ≤ maxLength)
    (hhead : label.head?.any isMark = false) : toAscii? label = some (asciiLabel label) := by
  have hmapped : mapText? label = some label := mapText?_eq_self fun c hc => (h c hc).mapPoint?_eq
  have hallowed : label.any isForbidden = false :=
    List.any_eq_false.mpr fun c hc => by simp [(h c hc).not_forbidden]
  -- no point in it, so that it is one label
  have hone : splitLabels label = [label] := by
    rw [splitLabels_eq]
    refine cutAt_of_not_sep fun c hc => decide_eq_false ?_
    exact (h c hc).ne (by decide) (by decide)
  have hleft : (label.any fun c => isRightward (Direction.of c)) = false :=
    List.any_eq_false.mpr fun c hc => by simp [(h c hc).not_rightward]
  have hshown : [label].mapM unicodeLabel? = some [label] :=
    mapM_eq_self (by simpa using unicodeLabel?_of_han h hlength hhead)
  simp only [toAscii?, hmapped, Option.bind_eq_bind, Option.bind_some, normalForm_of_han h, hallowed,
    hone, hshown, List.any_cons, List.any_nil, hleft, List.map_cons, List.map_nil,
    List.intercalate_singleton]
  rfl

end PlainHan

-- ---------------------------------------------------------------------------
-- Labels that are too long
-- ---------------------------------------------------------------------------

/-- Whether a character can stand in Punycode. -/
def IsCode (c : Char) : Prop :=
  c = '-' ∨ IsSmall c

/-- The digits of Punycode are digits and small letters. -/
theorem isSmall_of_isDigit {c : Char} (h : Punycode.IsDigit c) : IsSmall c := by
  obtain ⟨n, hn, rfl⟩ := h
  have hall : ∀ k : Fin 36, IsSmall (Punycode.digit k.val) := by decide
  exact hall ⟨n, hn⟩

/-- What Punycode makes of such a label consists of digits, small letters and hyphens. -/
theorem isCode_of_mem_encode {label : List Char} (h : ∀ c ∈ label, IsPlainHan c) {c : Char}
    (hc : c ∈ Punycode.encode label) : IsCode c := by
  rcases Punycode.mem_encode hc with ⟨hmem, hbasic⟩ | rfl | hdigit
  · refine .inr ((h c hmem).resolve_right fun hhan => ?_)
    have := (le_of_isHan hhan).1
    simp only [Punycode.isBasic, decide_eq_true_eq] at hbasic
    omega
  · exact .inl rfl
  · exact .inr (isSmall_of_isDigit hdigit)

/-- A label in Punycode that is too long is not read. -/
theorem toAscii?_of_long {code : List Char} (h : ∀ c ∈ code, IsCode c) (hlong : 2000 < code.length) :
    toAscii? (asciiMark ++ code) = none := by
  have hname : ∀ c ∈ asciiMark ++ code, IsCode c := by
    refine List.forall_mem_append.mpr ⟨fun c hc => ?_, h⟩
    have hall : asciiMark.all (fun d => decide (d = '-' ∨ IsSmall d)) = true := by decide
    exact of_decide_eq_true (p := c = '-' ∨ IsSmall c) (List.all_eq_true.mp hall c hc)
  have hsettled : ∀ c ∈ asciiMark ++ code,
      c.toNat < 0x80 ∧ c.toLower = c ∧ isForbidden c = false ∧ c ≠ '.' := by
    intro c hc
    rcases hname c hc with rfl | hsmall
    · decide +kernel
    · refine ⟨hsmall.settled.ascii, hsmall.settled.lower, hsmall.settled.allowed, ?_⟩
      rintro rfl
      exact absurd hsmall (by decide)
  have hmapped : mapText? (asciiMark ++ code) = some (asciiMark ++ code) :=
    mapText?_eq_self fun c hc => mapPoint?_of_ascii (hsettled c hc).1 (hsettled c hc).2.1
  have hnormal := normalForm_of_ascii fun c hc => (hsettled c hc).1
  have hone : splitLabels (asciiMark ++ code) = [asciiMark ++ code] := by
    rw [splitLabels_eq]
    exact cutAt_of_not_sep fun c hc => decide_eq_false (hsettled c hc).2.2.2
  -- the limit on Punycode is where it is decoded
  have hunread : unicodeLabel? (asciiMark ++ code) = none := by
    have hprefix : asciiMark.isPrefixOf (asciiMark ++ code) = true :=
      List.isPrefixOf_iff_prefix.mpr (List.prefix_append _ _)
    have hdrop : (asciiMark ++ code).drop 4 = code := rfl
    rw [unicodeLabel?, if_pos hprefix, hdrop]
    simp [hlong]
  have hshown : [asciiMark ++ code].mapM unicodeLabel? = none := by
    rw [List.mapM_cons, hunread]
    rfl
  simp only [toAscii?, hmapped, Option.bind_eq_bind, Option.bind_some, Option.bind_none, hnormal,
    hone, hshown, ite_self]

/-- It is no number either, so that it is not taken for an address. -/
theorem not_endsInNumber_of_code {code : List Char} (h : ∀ c ∈ code, IsCode c) :
    Address.endsInNumber (asciiMark ++ code) = false := by
  have hone : Address.splitAt '.' (asciiMark ++ code) = [asciiMark ++ code] := by
    rw [Address.splitAt_eq]
    have hmark : asciiMark.all (fun c => !decide (c = '.')) = true := by decide
    refine cutAt_of_not_sep (List.forall_mem_append.mpr ⟨fun c hc => ?_, fun c hc => ?_⟩)
    · simpa using List.all_eq_true.mp hmark c hc
    rcases h c hc with rfl | hsmall
    · rfl
    · refine decide_eq_false ?_
      rintro rfl
      exact absurd hsmall (by decide)
  have hnumber : Address.number? (asciiMark ++ code) = none := rfl
  rw [Address.endsInNumber, hone]
  rfl

end WebhookDelivery.Domain

-- ---------------------------------------------------------------------------
-- URLs with such names
-- ---------------------------------------------------------------------------

namespace WebhookDelivery.Url

open Domain Unicode

/-- A URL that has nothing but a name. -/
def ofName (name : List Char) : Url :=
  { secure := false, user := [], password := [], host := .name name, port := none, path := [[]]
    query := none, fragment := none }

section PlainHan

variable {c : Char} {label : List Char}

/-- Such a character does not end an authority. -/
theorem not_endsAuthority_of_han (h : IsPlainHan c) : endsAuthority true c = false := by
  have hslash : c ≠ '/' := h.ne (by decide) (by decide)
  have hquery : c ≠ '?' := h.ne (by decide) (by decide)
  have hhash : c ≠ '#' := h.ne (by decide) (by decide)
  have hbackslash : c ≠ '\\' := h.ne (by decide) (by decide)
  simp [endsAuthority, hslash, hquery, hhash, hbackslash]

/-- Such a character is not among those that the reader drops. -/
theorem lt_of_han (h : IsPlainHan c) : 0x20 < c.toNat := by
  rcases h with hsmall | hhan
  · have hplain : IsPlain c := ⟨hsmall.settled.ascii, hsmall.settled.allowed⟩
    exact (Percent.isInert_of_isPlain hplain).visible.1
  · have := (le_of_isHan hhan).1
    omega

/-- Such a character is no blank. -/
theorem not_isBlank_of_han (h : IsPlainHan c) : isBlank c = false := by
  rcases h with hsmall | hhan
  · have hall : ∀ k : Fin 128, IsSmall (Char.ofNat k) → isBlank (Char.ofNat k) = false := by decide
    exact forall_ascii (P := fun d => IsSmall d → isBlank d = false) hall hsmall.settled.ascii hsmall
  · have := (le_of_isHan hhan).1
    simp [isBlank]
    omega

/-- A label beyond ASCII is a host, by its ASCII form. -/
theorem readHost_of_han (h : ∀ c ∈ label, IsPlainHan c) (hlength : label.length ≤ maxLength)
    (hhead : label.head?.any isMark = false) (hbeyond : isAscii label = false) :
    readHost label = .ok (.name (asciiMark ++ Punycode.encode label)) := by
  have hopen : label.head? ≠ some '[' := fun heq =>
    (h _ (List.mem_of_head? heq)).ne (by decide) (by decide) rfl
  have hmarks : ∀ c ∈ label, c ≠ '%' := fun c hc => (h c hc).ne (by decide) (by decide)
  have hascii : asciiLabel label = asciiMark ++ Punycode.encode label := by
    rw [asciiLabel, hbeyond, if_neg Bool.false_ne_true]
  have hname : Address.endsInNumber (asciiMark ++ Punycode.encode label) = false :=
    not_endsInNumber_of_code fun c => isCode_of_mem_encode h
  rw [readHost_eq hopen hmarks, toAscii?_of_han h hlength hhead, hascii]
  show (if Address.endsInNumber (asciiMark ++ Punycode.encode label) then _ else _) = _
  rw [hname, if_neg Bool.false_ne_true]

/-- The text of a URL with nothing but a label. -/
def textOf (label : List Char) : String :=
  String.ofList (schemeName false ++ ("://".toList ++ (label ++ ['/'])))

/-- Without user name, password and port, a name and a slash make `ofName`. -/
theorem ofParts_slash (name : List Char) :
    ofParts false ([], []) (.name name) none ['/'] = ofName name :=
  rfl

/-- What stands before the slash of the path is read as the host. -/
theorem readAuthority_of_han (h : ∀ c ∈ label, IsPlainHan c) (hlength : label.length ≤ maxLength)
    (hhead : label.head?.any isMark = false) (hbeyond : isAscii label = false) :
    readAuthority false (label ++ ['/']) = .ok (ofName (asciiMark ++ Punycode.encode label)) := by
  have hbare : ∀ c ∈ label, c ≠ '@' ∧ endsAuthority true c = false := fun c hc =>
    ⟨(h c hc).ne (by decide) (by decide), not_endsAuthority_of_han (h c hc)⟩
  -- there is no user name to cut off
  have hinfo : readUserInfo true (label ++ ['/']) = .ok (([], []), label ++ ['/']) := by
    rw [readUserInfo, cutUserInfo?_of_no_mark hbare rfl]
  -- and the host goes up to the slash
  have hspan : spanHost true false (label ++ ['/']) = (label, ['/']) := by
    rw [spanHost_append, spanHost_over (.inr rfl), List.append_nil]
    intro c hc
    exact ⟨(hbare c hc).2, fun heq => absurd heq ((h c hc).ne (by decide) (by decide)),
      (h c hc).ne (by decide) (by decide), (h c hc).ne (by decide) (by decide)⟩
  have hne : label ≠ [] := by
    rintro rfl
    cases hbeyond
  have hport : readPort (some (usualPort false)) ['/'] = .ok (none, ['/']) := rfl
  have hparts : Parts false (label ++ ['/']) _ :=
    .parts hinfo hspan hne (readHost_of_han h hlength hhead hbeyond) hport
  rw [ofParts_slash] at hparts
  exact readAuthority_iff.mpr hparts

/-- A URL whose name is a label beyond ASCII is read, and names the label's ASCII form. -/
theorem parse_of_han (h : ∀ c ∈ label, IsPlainHan c) (hlength : label.length ≤ maxLength)
    (hhead : label.head?.any isMark = false) (hbeyond : isAscii label = false) :
    parse (textOf label) = .ok (ofName (asciiMark ++ Punycode.encode label)) := by
  -- what holds of the scheme, of the label and of the slash holds of all characters
  have hall : ∀ p : Char → Bool, (schemeName false ++ "://".toList).all p = true →
      (∀ d, IsPlainHan d → p d = true) →
      ∀ c ∈ schemeName false ++ ("://".toList ++ (label ++ ['/'])), p c = true := by
    intro p hscheme hlabel c hc
    rw [List.all_eq_true] at hscheme
    simp only [List.mem_append, List.mem_singleton] at hc
    rcases hc with hc | hc | hc | rfl
    · exact hscheme c (List.mem_append_left _ hc)
    · exact hscheme c (List.mem_append_right _ hc)
    · exact hlabel c (h c hc)
    · exact hscheme '/' (List.mem_append_right _ (by decide))
  have hblank := hall (fun c => !isBlank c) (by decide)
    (fun _ hd => by rw [not_isBlank_of_han hd, Bool.not_false])
  have hvisible := hall (fun c => decide (0x20 < c.toNat)) (by decide)
    (fun _ hd => decide_eq_true (lt_of_han hd))
  have hrest : ("//".toList ++ (label ++ ['/'])).dropWhile isSlash = label ++ ['/'] := by
    have hslashes : "//".toList.all isSlash = true := by decide
    refine dropWhile_until (List.all_eq_true.mp hslashes) fun c hc => ?_
    cases label with
    | nil => cases hbeyond
    | cons d label =>
      obtain rfl : d = c := Option.some.inj hc
      exact not_isSlash_of_authority (not_endsAuthority_of_han (h d List.mem_cons_self))
  rw [parse, textOf, String.toList_ofList,
    trimBlanks_eq_self fun c hc => by simpa using hblank c hc,
    read_scheme false (fun c hc => of_decide_eq_true (hvisible c hc)) hrest,
    readAuthority_of_han h hlength hhead hbeyond]
  rfl

/-- If the ASCII form is too long, the text of this URL is not read again. -/
theorem not_parse_text (h : ∀ c ∈ label, IsPlainHan c) (hlength : label.length ≤ maxLength)
    (hhead : label.head?.any isMark = false) (hbeyond : isAscii label = false)
    (hlong : 2000 < (Punycode.encode label).length) (u : Url) :
    parse (ofName (asciiMark ++ Punycode.encode label)).text ≠ .ok u := by
  have hparsed := parse_of_han h hlength hhead hbeyond
  have hnormal := normal_of_read (read_of_parse hparsed)
  intro hagain
  have hread := read_of_parse hagain
  rw [trimBlanks_text hnormal] at hread
  exact read_chars_ne_ok hnormal rfl (toAscii?_of_long (fun c => isCode_of_mem_encode h) hlong) hread

end PlainHan

-- ---------------------------------------------------------------------------
-- One such label
-- ---------------------------------------------------------------------------

/-- The first 999 Han characters in their order. -/
def hanRun : List Char :=
  (List.range 999).map fun i => Char.ofNat (0x4e00 + i)

/-- The letter `a` and those characters, a thousand in all. -/
def longLabel : List Char :=
  'a' :: hanRun

/-- The numbers of the Han characters in their order. -/
theorem toNat_ofNat_han {i : Nat} (h : i < 999) : (Char.ofNat (0x4e00 + i)).toNat = 0x4e00 + i := by
  have hvalid : (0x4e00 + i).isValidChar := .inl (by omega)
  rw [Char.ofNat, dif_pos hvalid]
  rfl

theorem length_hanRun : hanRun.length = 999 := by
  rw [hanRun, List.length_map, List.length_range]

/-- They are Han characters. -/
theorem isHan_of_mem_hanRun {c : Char} (h : c ∈ hanRun) : isHan c = true := by
  obtain ⟨i, hi, rfl⟩ := List.mem_map.mp h
  have hbound := List.mem_range.mp hi
  simp only [isHan, toNat_ofNat_han hbound, Bool.and_eq_true, decide_eq_true_eq]
  omega

theorem ascending_hanRun : Punycode.Ascending hanRun := by
  refine List.pairwise_map.mpr (List.pairwise_lt_range.imp_of_mem fun {i j} hi hj hlt => ?_)
  rw [toNat_ofNat_han (List.mem_range.mp hi), toNat_ofNat_han (List.mem_range.mp hj)]
  omega

theorem isPlainHan_longLabel : ∀ c ∈ longLabel, IsPlainHan c :=
  List.forall_mem_cons.mpr ⟨.inl (by decide), fun _ hc => .inr (isHan_of_mem_hanRun hc)⟩

/-- It has a thousand characters, which is just what a label may have; in Punycode it has more than
two thousand, which is more than may be read. -/
theorem long_encode_longLabel : 2000 < (Punycode.encode longLabel).length := by
  have hbasic : ∀ c ∈ ['a'], Punycode.isBasic c = true := List.all_eq_true.mp (by decide)
  have hbeyond : ∀ c ∈ hanRun, Punycode.isBasic c = false := by
    intro c hc
    have := (le_of_isHan (isHan_of_mem_hanRun hc)).1
    exact decide_eq_false (by omega)
  have hascending : Punycode.Ascending (['a'] ++ hanRun) := by
    rw [Punycode.Ascending, List.singleton_append, List.pairwise_cons]
    refine ⟨fun c hc => ?_, ascending_hanRun⟩
    have := (le_of_isHan (isHan_of_mem_hanRun hc)).1
    have hletter : 'a'.toNat = 97 := rfl
    omega
  have hleast := Punycode.digitsFrom_le_encode hbasic hbeyond hascending
  -- The first 25 take one digit at least, the next 885 take two, and the last 89 take three.
  rw [length_hanRun, List.length_singleton, show 999 = 25 + (885 + 89) from rfl,
    Punycode.digitsFrom_add, Punycode.digitsFrom_add, List.singleton_append] at hleast
  have hdigits := Nat.add_le_add (Punycode.mul_le_digitsFrom 1 25)
    (Nat.add_le_add (Punycode.mul_le_digitsFrom (1 + 25) 885)
      (Punycode.mul_le_digitsFrom (1 + 25 + 885) 89))
  have hsum : 2000 < 1 + (Punycode.leastDigits 1 * 25 + (Punycode.leastDigits (1 + 25) * 885
      + Punycode.leastDigits (1 + 25 + 885) * 89)) := by decide
  exact Nat.lt_of_lt_of_le hsum (Nat.le_trans (Nat.add_le_add_left hdigits 1) hleast)

/-- A URL with this label is read, and its own text is not. -/
theorem read_once_longLabel : ∃ u, parse (textOf longLabel) = .ok u ∧ ∀ v, parse u.text ≠ .ok v := by
  have hlength : longLabel.length ≤ maxLength := by
    rw [longLabel, List.length_cons, length_hanRun]
    decide
  have hhead : longLabel.head?.any isMark = false := rfl
  have hfirst : Char.ofNat 0x4e00 ∈ hanRun :=
    List.mem_map.mpr ⟨0, List.mem_range.mpr (by decide), rfl⟩
  have hbeyond : isAscii longLabel = false :=
    List.all_eq_false.mpr ⟨_, List.mem_cons_of_mem _ hfirst, by decide⟩
  exact ⟨_, parse_of_han isPlainHan_longLabel hlength hhead hbeyond,
    not_parse_text isPlainHan_longLabel hlength hhead hbeyond long_encode_longLabel⟩

end WebhookDelivery.Url
