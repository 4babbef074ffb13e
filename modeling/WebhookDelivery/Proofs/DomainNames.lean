import WebhookDelivery.Proofs.Digits
import WebhookDelivery.Proofs.Separators

/-!
# Domain names in ASCII

The ASCII form of a name can stand in a URL as it is: it holds neither a character beyond ASCII nor
one that a URL gives a meaning. That a name in this form is its own ASCII form is another matter. It
is so where nothing has to be looked up, as in most names and in the text of an address.

* `Punycode.mem_encode` — what Punycode is written with.
* `isPlain_of_mem_toAscii?` — the characters of a name in ASCII.
* `toAscii?_of_small` — digits, small letters and points are their own ASCII form.
-/

namespace WebhookDelivery.Domain

open Unicode

-- ---------------------------------------------------------------------------
-- Punycode
-- ---------------------------------------------------------------------------

namespace Punycode

/-- Whether a character is one of the thirty-six digits. -/
def IsDigit (c : Char) : Prop :=
  ∃ n, n < 36 ∧ c = digit n

/-- A delta is written with Punycode digits only. -/
theorem isDigit_of_mem_deltaDigits {bias k q : Nat} {c : Char} (h : c ∈ deltaDigits bias k q) :
    IsDigit c := by
  -- on the digits, the last of which is below its threshold
  induction k, q using deltaDigits.induct bias with
  | case1 k q t hlt =>
    rw [deltaDigits, if_pos hlt, List.mem_singleton] at h
    have hle := threshold_le k bias
    exact ⟨q, by omega, h⟩
  | case2 k q t hge ih =>
    rw [deltaDigits, if_neg hge, List.mem_cons] at h
    rcases h with rfl | h
    · have hpos := threshold_pos k bias
      have hle := threshold_le k bias
      have hmod : (q - threshold k bias) % (36 - threshold k bias) < 36 - threshold k bias :=
        Nat.mod_lt _ (by omega)
      exact ⟨_, by omega, rfl⟩
    · exact ih h

/-- Whether an encoder has written nothing but digits. -/
def Encoder.WritesDigits (e : Encoder) : Prop :=
  ∀ part ∈ e.parts, ∀ c ∈ part, IsDigit c

/-- A pass over one character adds digits only. -/
theorem Encoder.writesDigits_pass {e : Encoder} (h : e.WritesDigits) (basic m : Nat) (c : Char) :
    (e.pass basic m c).WritesDigits := by
  rw [pass]
  split
  · exact h
  · split
    · exact List.forall_mem_cons.mpr ⟨fun d hd => isDigit_of_mem_deltaDigits hd, h⟩
    · exact h

/-- A pass over the label adds digits only. -/
theorem Encoder.writesDigits_foldl {e : Encoder} (h : e.WritesDigits) (basic m : Nat)
    (input : List Char) : (input.foldl (pass basic m) e).WritesDigits := by
  induction input generalizing e with
  | nil => exact h
  | cons c input ih => exact ih (writesDigits_pass h basic m c)

/-- Placing all code points adds digits only. -/
theorem Encoder.writesDigits_placeAll {e : Encoder} (h : e.WritesDigits) (input : List Char)
    (basic : Nat) (points : List Nat) (n : Nat) :
    (placeAll input basic points n e).WritesDigits := by
  induction points generalizing n e with
  | nil => exact h
  | cons m rest ih =>
    rw [placeAll]
    let moved : Encoder := { e with delta := e.delta + (m - n) * (e.handled + 1) }
    let passed := input.foldl (pass basic m) moved
    have hpassed : passed.WritesDigits := writesDigits_foldl (e := moved) h basic m input
    exact ih (e := { passed with delta := passed.delta + 1 }) hpassed (m + 1)

/-- A label is written with its own ASCII characters, hyphens and digits. -/
theorem mem_encode {label : List Char} {c : Char} (h : c ∈ encode label) :
    (c ∈ label ∧ isBasic c = true) ∨ c = '-' ∨ IsDigit c := by
  rw [encode, List.mem_append, List.mem_append, List.mem_filter] at h
  rcases h with (hbasic | hyphen) | hdigits
  · exact .inl hbasic
  · split at hyphen
    · cases hyphen
    · exact .inr (.inl (List.mem_singleton.mp hyphen))
  · obtain ⟨part, hpart, hc⟩ := List.mem_flatten.mp hdigits
    have hstart : Encoder.WritesDigits ⟨[], 0, 72, (label.filter isBasic).length⟩ := by
      rintro _ ⟨⟩
    exact .inr (.inr (Encoder.writesDigits_placeAll hstart label _ _ _ part
      (List.mem_reverse.mp hpart) c hc))

end Punycode

-- ---------------------------------------------------------------------------
-- Names in ASCII
-- ---------------------------------------------------------------------------

/-- Whether a character may stand in the ASCII form of a name. -/
def IsPlain (c : Char) : Prop :=
  c.toNat < 0x80 ∧ isForbidden c = false

/-- Punycode digits may stand in a name. -/
theorem isPlain_digit {c : Char} (h : Punycode.IsDigit c) : IsPlain c := by
  obtain ⟨n, hn, rfl⟩ := h
  have hall : ∀ k : Fin 36, (Punycode.digit k.val).toNat < 0x80
      ∧ isForbidden (Punycode.digit k.val) = false := by
    decide +kernel
  exact hall ⟨n, hn⟩

/-- The ASCII form of a label has only characters that may stand in a name. -/
theorem isPlain_asciiLabel {label : List Char} {c : Char}
    (hlabel : ∀ d ∈ label, isForbidden d = false) (h : c ∈ asciiLabel label) : IsPlain c := by
  rw [asciiLabel] at h
  split at h
  · rename_i hascii
    rw [isAscii, List.all_eq_true] at hascii
    exact ⟨by simpa using hascii c h, hlabel c h⟩
  · rcases List.mem_append.mp h with hmark | hcode
    · have hall : asciiMark.all (fun d => decide (d.toNat < 0x80) && !isForbidden d) = true := by
        decide +kernel
      simpa [IsPlain] using List.all_eq_true.mp hall c hmark
    · rcases Punycode.mem_encode hcode with ⟨hmem, hbasic⟩ | rfl | hdigit
      · exact ⟨by simpa [Punycode.isBasic] using hbasic, hlabel c hmem⟩
      · exact ⟨by decide, by decide +kernel⟩
      · exact isPlain_digit hdigit

/-- A name has an ASCII form if nothing forbidden remains of it and every label can be shown; it is
made of the labels one by one. -/
theorem toAscii?_cases {name ascii : List Char} (h : toAscii? name = some ascii) :
    ∃ mapped, mapText? name = some mapped ∧ (normalForm mapped).any isForbidden = false
      ∧ ascii = List.intercalate ['.'] ((splitLabels (normalForm mapped)).map asciiLabel) := by
  rw [toAscii?, Option.bind_eq_bind, Option.bind_eq_some_iff] at h
  obtain ⟨mapped, hmapped, h⟩ := h
  refine ⟨mapped, hmapped, ?_⟩
  simp only at h
  split at h
  · cases h
  · rename_i hallowed
    rw [Option.bind_eq_bind, Option.bind_eq_some_iff] at h
    obtain ⟨shown, -, h⟩ := h
    split at h
    · cases h
    · exact ⟨Bool.eq_false_iff.mpr hallowed, (Option.some.inj h).symm⟩

/-- The ASCII form of a name can stand in a URL as it is. -/
theorem isPlain_of_mem_toAscii? {name ascii : List Char} {c : Char}
    (h : toAscii? name = some ascii) (hc : c ∈ ascii) : IsPlain c := by
  obtain ⟨mapped, -, hallowed, rfl⟩ := toAscii?_cases h
  rcases mem_intercalate hc with rfl | ⟨part, hpart, hc⟩
  · exact ⟨by decide, by decide +kernel⟩
  · obtain ⟨label, hlabel, rfl⟩ := List.mem_map.mp hpart
    refine isPlain_asciiLabel (fun d hd => ?_) hc
    rw [splitLabels_eq] at hlabel
    obtain ⟨hmem, -⟩ := mem_of_mem_cutAt hlabel hd
    simpa using List.any_eq_false.mp hallowed d hmem

-- ---------------------------------------------------------------------------
-- Names in which nothing is looked up
-- ---------------------------------------------------------------------------

/-- A text whose characters all stand for themselves maps to itself. -/
theorem mapText?_eq_self {cs : List Char} (h : ∀ c ∈ cs, mapPoint? c = some [c.toNat]) :
    mapText? cs = some cs := by
  have hpieces : cs.mapM mapPoint? = some (cs.map fun c => [c.toNat]) := by
    induction cs with
    | nil => rfl
    | cons c cs ih =>
      obtain ⟨hc, hcs⟩ := List.forall_mem_cons.mp h
      rw [List.mapM_cons, ih hcs, hc]
      rfl
  have hpoints : (cs.map fun c => [c.toNat]).flatten = cs.map Char.toNat := by
    rw [← List.flatMap_def, List.map_eq_flatMap]
  have hchars : (cs.map Char.toNat).map Char.ofNat = cs := by
    rw [List.map_map]
    exact (List.map_congr_left fun c _ => Char.ofNat_toNat c).trans (List.map_id cs)
  rw [mapText?, hpieces, Option.map_some, hpoints, hchars]

/-- In ASCII all but the capital letters stand for themselves. -/
theorem mapPoint?_of_ascii {c : Char} (hascii : c.toNat < 0x80) (hlower : c.toLower = c) :
    mapPoint? c = some [c.toNat] := by
  rw [mapPoint?, if_pos hascii, hlower]

/-- ASCII text is in normal form. -/
theorem normalForm_of_ascii {cs : List Char} (h : ∀ c ∈ cs, c.toNat < 0x80) :
    normalForm cs = cs := by
  refine if_pos (List.all_eq_true.mpr fun c hc => ?_)
  have hascii := h c hc
  exact Bool.or_eq_true_iff.mpr (.inl (decide_eq_true (by omega)))

/-- A list is mapped to itself where each of its elements is. -/
theorem mapM_eq_self {α : Type} {f : α → Option α} {xs : List α} (h : ∀ x ∈ xs, f x = some x) :
    xs.mapM f = some xs := by
  induction xs with
  | nil => rfl
  | cons x xs ih =>
    obtain ⟨hx, hxs⟩ := List.forall_mem_cons.mp h
    rw [List.mapM_cons, hx, ih hxs]
    rfl

/-- Whether a character is a digit or a small letter. -/
def IsSmall (c : Char) : Prop :=
  c.isDigit = true ∨ c.isLower = true

instance (c : Char) : Decidable (IsSmall c) :=
  inferInstanceAs (Decidable (_ ∨ _))

/-- What is known of digits and small letters without looking them up. -/
structure IsSettled (c : Char) : Prop where
  ascii : c.toNat < 0x80
  lower : c.toLower = c
  allowed : isForbidden c = false
  notHyphen : c ≠ '-'
  notRightward : isRightward (Direction.of c) = false

/-- Nothing in the handling of names changes or refuses a digit or a small letter. -/
theorem IsSmall.settled {c : Char} (h : IsSmall c) : IsSettled c := by
  have hascii : c.toNat < 0x80 := by
    rcases h with h | h
    · have hrange := (Bool.and_eq_true_iff.mp h).2
      have hdigit : c.toNat ≤ 57 := by simpa [UInt32.le_iff_toNat_le] using hrange
      omega
    · have hrange := (Bool.and_eq_true_iff.mp h).2
      have hletter : c.toNat ≤ 122 := by simpa [UInt32.le_iff_toNat_le] using hrange
      omega
  -- all ASCII characters are looked up, one by one
  have hall : ∀ k : Fin 128, IsSmall (Char.ofNat k) →
      (Char.ofNat k).toLower = Char.ofNat k ∧ isForbidden (Char.ofNat k) = false
        ∧ Char.ofNat k ≠ '-' ∧ isRightward (Direction.of (Char.ofNat k)) = false := by
    decide +kernel
  have hc := hall ⟨c.toNat, hascii⟩
  rw [show Char.ofNat (⟨c.toNat, hascii⟩ : Fin 128) = c from Char.ofNat_toNat c] at hc
  obtain ⟨hlower, hallowed, hhyphen, hleft⟩ := hc h
  exact ⟨hascii, hlower, hallowed, hhyphen, hleft⟩

theorem isAscii_of_small {label : List Char} (h : ∀ c ∈ label, IsSmall c) :
    isAscii label = true := by
  refine List.all_eq_true.mpr fun c hc => ?_
  exact decide_eq_true (h c hc).settled.ascii

/-- A label of digits and small letters is shown as it is, for it is not marked as encoded. -/
theorem unicodeLabel?_of_small {label : List Char} (h : ∀ c ∈ label, IsSmall c) :
    unicodeLabel? label = some label := by
  have hmark : asciiMark.isPrefixOf label = false := by
    rw [← Bool.not_eq_true, List.isPrefixOf_iff_prefix]
    intro hprefix
    have hmem : '-' ∈ label := hprefix.subset (by decide)
    exact (h '-' hmem).settled.notHyphen rfl
  rw [unicodeLabel?, hmark, isAscii_of_small h]
  rfl

/-- A label of digits and small letters runs from left to right. -/
theorem not_rightward_of_small {label : List Char} (h : ∀ c ∈ label, IsSmall c) :
    (label.any fun c => isRightward (Direction.of c)) = false := by
  refine List.any_eq_false.mpr fun c hc => ?_
  rw [Bool.not_eq_true]
  exact (h c hc).settled.notRightward

/-- A text of digits, small letters and points is its own ASCII form. -/
theorem toAscii?_of_small {cs : List Char} (h : ∀ c ∈ cs, c = '.' ∨ IsSmall c) :
    toAscii? cs = some cs := by
  have hplain : ∀ c ∈ cs, c.toNat < 0x80 ∧ c.toLower = c ∧ isForbidden c = false := by
    intro c hc
    rcases h c hc with rfl | hsmall
    · decide +kernel
    · exact ⟨hsmall.settled.ascii, hsmall.settled.lower, hsmall.settled.allowed⟩
  -- each step of the conversion leaves the text as it is
  have hmapped : mapText? cs = some cs :=
    mapText?_eq_self fun c hc => mapPoint?_of_ascii (hplain c hc).1 (hplain c hc).2.1
  have hnormal : normalForm cs = cs := normalForm_of_ascii fun c hc => (hplain c hc).1
  have hallowed : cs.any isForbidden = false :=
    List.any_eq_false.mpr fun c hc => by simp [(hplain c hc).2.2]
  have hsmall : ∀ label ∈ splitLabels cs, ∀ c ∈ label, IsSmall c := by
    intro label hlabel c hc
    rw [splitLabels_eq] at hlabel
    obtain ⟨hmem, hpoint⟩ := mem_of_mem_cutAt hlabel hc
    exact (h c hmem).resolve_left (by simpa using hpoint)
  have hshown : (splitLabels cs).mapM unicodeLabel? = some (splitLabels cs) :=
    mapM_eq_self fun label hlabel => unicodeLabel?_of_small (hsmall label hlabel)
  have hleft : ((splitLabels cs).any (·.any fun c => isRightward (Direction.of c))) = false := by
    refine List.any_eq_false.mpr fun label hlabel => ?_
    rw [Bool.not_eq_true]
    exact not_rightward_of_small (hsmall label hlabel)
  have hwritten : (splitLabels cs).map asciiLabel = splitLabels cs := by
    have hlabels : ∀ label ∈ splitLabels cs, asciiLabel label = label :=
      fun label hlabel => if_pos (isAscii_of_small (hsmall label hlabel))
    exact (List.map_congr_left hlabels).trans (List.map_id _)
  have hjoined : List.intercalate ['.'] (splitLabels cs) = cs := by
    rw [splitLabels_eq, intercalate_cutAt]
  simp only [toAscii?, hmapped, Option.bind_eq_bind, Option.bind_some, hnormal, hallowed, hshown,
    hleft, hwritten, hjoined]
  rfl

end WebhookDelivery.Domain
