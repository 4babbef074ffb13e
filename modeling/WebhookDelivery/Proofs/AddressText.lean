import Mathlib.Algebra.Group.Nat.Defs
import WebhookDelivery.Proofs.DomainNames

/-!
# Addresses written and read back

The loose ways in which addresses are read lead to one way in which they are written, and that is
read back as the same address. An IPv6 address is written without its longest run of zeros. The
reader counts the place where groups are omitted as one group, which is right because a run that is
left out has at least two.

* `readV4?_v4Text`, `readV6?_v6Text` — what is written is read back.
* `lt_of_readV4?`, `isGroups_of_readV6?` — what is read can be written.
-/

namespace WebhookDelivery

-- ---------------------------------------------------------------------------
-- Hexadecimal numbers
-- ---------------------------------------------------------------------------

namespace Hex

theorem value?_digitChar {d : Nat} (h : d < 16) : value? d.digitChar = some d := by
  have hall : ∀ k : Fin 16, value? k.val.digitChar = some k.val := by decide
  exact hall ⟨d, h⟩

/-- Each character of a hexadecimal number is a digit. -/
theorem exists_of_mem_toDigits {n : Nat} {c : Char} (h : c ∈ Nat.toDigits 16 n) :
    ∃ d, d < 16 ∧ c = d.digitChar := by
  induction n using Nat.strongRecOn with
  | ind n ih =>
    by_cases hn : n < 16
    · rw [Nat.toDigits_of_lt_base hn, List.mem_singleton] at h
      exact ⟨n, hn, h⟩
    · rw [Nat.toDigits_of_base_le (by decide) (by omega), List.mem_append,
        List.mem_singleton] at h
      rcases h with h | rfl
      · exact ih (n / 16) (by omega) h
      · exact ⟨n % 16, Nat.mod_lt _ (by decide), rfl⟩

/-- Digits are read as the number that they were made from. -/
theorem read?_toDigits (n : Nat) : read? (Nat.toDigits 16 n) = some n := by
  induction n using Nat.strongRecOn with
  | ind n ih =>
    by_cases hn : n < 16
    · rw [Nat.toDigits_of_lt_base hn]
      simp [read?, value?_digitChar hn]
    · have hread := ih (n / 16) (by omega)
      rw [read?] at hread
      rw [Nat.toDigits_of_base_le (by decide) (by omega), read?, List.foldlM_append, hread]
      simp only [Option.bind_eq_bind, Option.bind_some, List.foldlM_cons, List.foldlM_nil,
        value?_digitChar (Nat.mod_lt n (by decide : 0 < 16)), Option.map_some, Option.pure_def]
      congr 1
      omega

/-- The value of a hexadecimal digit is below sixteen. -/
theorem value?_lt {c : Char} {d : Nat} (h : value? c = some d) : d < 16 := by
  have hnine : '9'.toNat = 57 := rfl
  have hf : 'f'.toNat = 102 := rfl
  have hF : 'F'.toNat = 70 := rfl
  rw [value?] at h
  split at h
  · rename_i hc
    have hle : c.toNat ≤ 57 := hc.2
    rw [← Option.some.inj h]
    show c.toNat - 48 < 16
    omega
  · split at h
    · rename_i hc
      have hle : c.toNat ≤ 102 := hc.2
      rw [← Option.some.inj h]
      show c.toNat - 97 + 10 < 16
      omega
    · split at h
      · rename_i hc
        have hle : c.toNat ≤ 70 := hc.2
        rw [← Option.some.inj h]
        show c.toNat - 65 + 10 < 16
        omega
      · cases h

/-- Each digit that is read multiplies the bound by sixteen. -/
theorem lt_of_foldlM {cs : List Char} {start n : Nat}
    (h : cs.foldlM (fun n c => (value? c).map (n * 16 + ·)) start = some n) :
    n < (start + 1) * 16 ^ cs.length := by
  -- the bound grows by a factor of sixteen with every digit that is read
  induction cs generalizing start with
  | nil =>
    obtain rfl := Option.some.inj h
    simp
  | cons c cs ih =>
    rw [List.foldlM_cons, Option.bind_eq_bind, Option.bind_eq_some_iff] at h
    obtain ⟨next, hnext, h⟩ := h
    obtain ⟨d, hd, rfl⟩ := Option.map_eq_some_iff.mp hnext
    have hlt := value?_lt hd
    have hstep : start * 16 + d + 1 ≤ (start + 1) * 16 := by omega
    calc n < (start * 16 + d + 1) * 16 ^ cs.length := ih h
      _ ≤ (start + 1) * 16 * 16 ^ cs.length := Nat.mul_le_mul_right _ hstep
      _ = (start + 1) * 16 ^ (cs.length + 1) := by rw [Nat.pow_succ', Nat.mul_assoc]

theorem read?_lt {cs : List Char} {n : Nat} (h : read? cs = some n) : n < 16 ^ cs.length := by
  have hlt := lt_of_foldlM h
  omega

end Hex

namespace Address

-- ---------------------------------------------------------------------------
-- IPv4
-- ---------------------------------------------------------------------------

theorem number?_toDigits {n : Nat} (h : n < 256) : number? (Nat.toDigits 10 n) = some n := by
  have hall : ∀ k : Fin 256, number? (Nat.toDigits 10 k.val) = some k.val := by
    decide +kernel
  exact hall ⟨n, h⟩

/-- The four octets of an address. -/
def octets (a : Nat) : List Nat :=
  [a / 16777216 % 256, a / 65536 % 256, a / 256 % 256, a % 256]

theorem lt_of_mem_octets {a n : Nat} (h : n ∈ octets a) : n < 256 := by
  simp only [octets, List.mem_cons, List.not_mem_nil, or_false] at h
  rcases h with rfl | rfl | rfl | rfl <;> exact Nat.mod_lt _ (by decide)

/-- The text of an address is cut into the texts of its octets. -/
theorem splitAt_v4Text (a : Nat) : splitAt '.' (v4Text a) = (octets a).map (Nat.toDigits 10) := by
  rw [splitAt_eq]
  refine cutAt_intercalate (by simp) (by simp) fun part hpart c hc => ?_
  obtain ⟨n, -, rfl⟩ := List.mem_map.mp hpart
  have hdigit := Decimal.isDigit_of_mem_toDigits hc
  refine decide_eq_false fun hpoint => ?_
  rw [hpoint] at hdigit
  cases hdigit

/-- Four octets make the address with the first of them on top. -/
theorem v4OfNumbers?_of_four {k l m n : Nat} (hk : k < 256) (hl : l < 256) (hm : m < 256)
    (hn : n < 256) :
    v4OfNumbers? [k, l, m, n] = some (((k * 256 + l) * 256 + m) * 256 + n) := by
  have hbefore : [k, l, m].any (256 ≤ ·) = false := by
    simp [hk, hl, hm]
  have hlast : decide (Nat.pow 256 1 ≤ n) = false := by
    simpa using hn
  have hguard : (decide (4 < [k, l, m, n].length) || decide (Nat.pow 256 1 ≤ n)
      || [k, l, m].any (256 ≤ ·)) = false := by
    rw [hbefore, hlast]
    rfl
  have hvalue : v4OfNumbers? [k, l, m, n] = if (decide (4 < [k, l, m, n].length)
        || decide (Nat.pow 256 1 ≤ n) || [k, l, m].any (256 ≤ ·)) = true then none
      else some ((((0 * 256 + k) * 256 + l) * 256 + m) * Nat.pow 256 1 + n) := rfl
  rw [hvalue, hguard]
  simp

/-- The octets of an address make the address again. -/
theorem v4OfNumbers?_octets {a : Nat} (h : a < 4294967296) : v4OfNumbers? (octets a) = some a := by
  rw [octets, v4OfNumbers?_of_four]
  · congr 1
    omega
  all_goals exact Nat.mod_lt _ (by decide)

/-- The text of an address is read as this address. -/
theorem readV4?_v4Text {a : Nat} (h : a < 4294967296) : readV4? (v4Text a) = some a := by
  have hlast : ((octets a).map (Nat.toDigits 10)).getLast? = some (Nat.toDigits 10 (a % 256)) := rfl
  have hne : some (Nat.toDigits 10 (a % 256)) ≠ some [] := by
    simp [Nat.toDigits_ne_nil]
  have hnumbers : ((octets a).map (Nat.toDigits 10)).mapM number? = some (octets a) := by
    rw [List.mapM_map]
    exact Domain.mapM_eq_self fun n hn => number?_toDigits (lt_of_mem_octets hn)
  simp only [readV4?, splitAt_v4Text, hlast, if_neg hne, hnumbers, Option.bind_some,
    v4OfNumbers?_octets h]

/-- The text of an address is written with digits and points. -/
theorem mem_v4Text {a : Nat} {c : Char} (h : c ∈ v4Text a) : c = '.' ∨ c.isDigit = true := by
  refine (mem_intercalate h).imp_right ?_
  rintro ⟨part, hpart, hc⟩
  obtain ⟨n, -, rfl⟩ := List.mem_map.mp hpart
  rw [← Decimal.isDigit_eq]
  exact Decimal.isDigit_of_mem_toDigits hc

/-- The text of an address can only be an address. -/
theorem endsInNumber_v4Text (a : Nat) : endsInNumber (v4Text a) = true := by
  have hdigits : (Nat.toDigits 10 (a % 256)).all Decimal.isDigit = true :=
    List.all_eq_true.mpr fun c => Decimal.isDigit_of_mem_toDigits
  cases hlast : Nat.toDigits 10 (a % 256) with
  | nil => exact absurd hlast Nat.toDigits_ne_nil
  | cons c cs =>
    have hparts : (splitAt '.' (v4Text a)).reverse
        = (c :: cs) :: ((octets a).dropLast.map (Nat.toDigits 10)).reverse := by
      rw [splitAt_v4Text, ← hlast]
      rfl
    rw [hlast] at hdigits
    rw [endsInNumber, hparts]
    simp [hdigits]

theorem v4Text_ne_nil (a : Nat) : v4Text a ≠ [] := by
  intro hnil
  have hnumber := endsInNumber_v4Text a
  rw [hnil] at hnumber
  cases hnumber

/-- Digits of a base make less than the next power of it. -/
theorem foldl_lt {base : Nat} {digits : List Nat} (h : ∀ d ∈ digits, d < base) (n : Nat) :
    digits.foldl (fun n d => n * base + d) n < (n + 1) * base ^ digits.length := by
  induction digits generalizing n with
  | nil => simp
  | cons d digits ih =>
    obtain ⟨hd, hdigits⟩ := List.forall_mem_cons.mp h
    have hstep : n * base + d + 1 ≤ (n + 1) * base := by
      rw [Nat.succ_mul]
      omega
    calc digits.foldl (fun n d => n * base + d) (n * base + d)
        < (n * base + d + 1) * base ^ digits.length := ih hdigits _
      _ ≤ (n + 1) * base * base ^ digits.length := Nat.mul_le_mul_right _ hstep
      _ = (n + 1) * base ^ (digits.length + 1) := by rw [Nat.pow_succ', Nat.mul_assoc]

/-- Numbers that make an address make one of thirty-two bits. -/
theorem lt_of_v4OfNumbers? {numbers : List Nat} {a : Nat} (h : v4OfNumbers? numbers = some a) :
    a < 4294967296 := by
  rw [v4OfNumbers?] at h
  cases hreverse : numbers.reverse with
  | nil =>
    rw [hreverse] at h
    cases h
  | cons last before =>
    simp only [hreverse] at h
    split at h
    · cases h
    · rename_i hguard
      simp only [Bool.or_eq_true, decide_eq_true_eq, not_or, Nat.not_lt, Nat.not_le,
        List.any_eq_true, not_exists, not_and] at hguard
      obtain ⟨⟨hlength, hlast⟩, hbefore⟩ := hguard
      -- the last number takes the octets that the others have left
      have hcount : before.reverse.length ≤ 4 := by
        have hall : numbers.length = before.length + 1 := by
          rw [← List.length_reverse, hreverse, List.length_cons]
        rw [List.length_reverse]
        omega
      have hoctets := foldl_lt hbefore 0
      rw [Nat.zero_add, Nat.one_mul] at hoctets
      rw [← Option.some.inj h]
      -- the first numbers are the high octets, the last is below what is left of them
      calc _ < _ * 256 ^ (4 - before.reverse.length) + 256 ^ (4 - before.reverse.length) :=
            Nat.add_lt_add_left hlast _
        _ = (_ + 1) * 256 ^ (4 - before.reverse.length) := (Nat.succ_mul _ _).symm
        _ ≤ 256 ^ before.reverse.length * 256 ^ (4 - before.reverse.length) :=
            Nat.mul_le_mul_right _ hoctets
        _ = 4294967296 := by
            rw [← Nat.pow_add, Nat.add_sub_cancel' hcount]

theorem lt_of_readV4? {cs : List Char} {a : Nat} (h : readV4? cs = some a) : a < 4294967296 := by
  rw [readV4?, Option.bind_eq_some_iff] at h
  obtain ⟨numbers, -, h⟩ := h
  exact lt_of_v4OfNumbers? h

-- ---------------------------------------------------------------------------
-- IPv6: reading groups
-- ---------------------------------------------------------------------------

/-- The digits of a group before a colon or the end. -/
theorem takeWhile_group {n : Nat} (h : n < 65536) {tail : List Char}
    (htail : tail = [] ∨ tail.head? = some ':') :
    ((Nat.toDigits 16 n ++ tail).take 4).takeWhile (fun d => (Hex.value? d).isSome)
      = Nat.toDigits 16 n := by
  have hlength : (Nat.toDigits 16 n).length ≤ 4 :=
    (Nat.length_toDigits_le_iff (by decide) (by decide)).mpr h
  have hdigits : ∀ d ∈ Nat.toDigits 16 n, (Hex.value? d).isSome = true := by
    intro d hd
    obtain ⟨k, hk, rfl⟩ := Hex.exists_of_mem_toDigits hd
    rw [Hex.value?_digitChar hk]
    rfl
  -- a group ends at four digits at the latest, and here at the colon before
  have hrest : (tail.take (4 - (Nat.toDigits 16 n).length)).takeWhile
      (fun d => (Hex.value? d).isSome) = [] := by
    cases tail with
    | nil => simp
    | cons c tail =>
      obtain rfl : c = ':' := by simpa using htail
      cases 4 - (Nat.toDigits 16 n).length with
      | zero => rfl
      | succ k => rfl
  rw [List.take_append, List.take_of_length_le hlength, List.takeWhile_append_of_pos hdigits, hrest,
    List.append_nil]

section Groups

variable {read : List Nat} {gap : Option Nat} {n : Nat} {c : Char} {rest digits more : List Char}

/-- The digits at the start are the last group. -/
theorem groups?_of_last (hc : c ≠ ':') (hread : read.length < 8)
    (hspan : ((c :: rest).take 4).takeWhile (fun d => (Hex.value? d).isSome) = digits)
    (hvalue : Hex.read? digits = some n) (hdrop : (c :: rest).drop digits.length = []) :
    groups? read gap (c :: rest) = some (read ++ [n], gap) := by
  have hroom : ¬ read.length = 8 := by omega
  subst hspan
  -- `c` is no colon, so the third equation of `groups?` applies
  rw [groups?.eq_3 _ _ _ _ hc, if_neg hroom]
  dsimp only
  split
  · rename_i hnone
    cases hvalue.symm.trans hnone
  · rename_i hsome hend
    cases hvalue.symm.trans hsome
    rfl
  · rename_i hsome hpoint
    cases hdrop.symm.trans hpoint
  · rename_i hsome hcolon
    cases hdrop.symm.trans hcolon
  · rename_i hend _ _
    exact absurd hdrop hend

/-- The digits at the start are a group before others. -/
theorem groups?_of_colon (hc : c ≠ ':') (hread : read.length < 8)
    (hspan : ((c :: rest).take 4).takeWhile (fun d => (Hex.value? d).isSome) = digits)
    (hvalue : Hex.read? digits = some n) (hdrop : (c :: rest).drop digits.length = ':' :: more)
    (hmore : more ≠ []) : groups? read gap (c :: rest) = groups? (read ++ [n]) gap more := by
  have hroom : ¬ read.length = 8 := by omega
  subst hspan
  rw [groups?.eq_3 _ _ _ _ hc, if_neg hroom]
  dsimp only
  split
  · rename_i hnone
    cases hvalue.symm.trans hnone
  · rename_i hsome hend
    cases hdrop.symm.trans hend
  · rename_i hsome hpoint
    cases hdrop.symm.trans hpoint
  · rename_i hsome hcolon
    cases hvalue.symm.trans hsome
    cases hdrop.symm.trans hcolon
    rw [List.isEmpty_eq_false_iff.mpr hmore, if_neg Bool.false_ne_true]
  · rename_i hcolon
    exact absurd hdrop (hcolon more)

/-- A written group begins with a digit. -/
theorem toDigits_eq_cons (n : Nat) : ∃ c rest, Nat.toDigits 16 n = c :: rest ∧ c ≠ ':' := by
  obtain ⟨c, rest, hdigits⟩ := List.exists_cons_of_ne_nil (Nat.toDigits_ne_nil (b := 16) (n := n))
  obtain ⟨d, hd, rfl⟩ := Hex.exists_of_mem_toDigits (n := n) (hdigits ▸ List.mem_cons_self)
  have hall : ∀ k : Fin 16, k.val.digitChar ≠ ':' := by decide
  exact ⟨_, rest, hdigits, hall ⟨d, hd⟩⟩

theorem groupsText_cons (g next : Nat) (gs : List Nat) :
    groupsText (g :: next :: gs) = Nat.toDigits 16 g ++ ':' :: groupsText (next :: gs) := by
  simp only [groupsText, List.map_cons, List.intercalate_cons_cons, List.append_assoc,
    List.singleton_append]

theorem groupsText_singleton (g : Nat) : groupsText [g] = Nat.toDigits 16 g :=
  List.intercalate_singleton

theorem groupsText_ne_nil (g : Nat) (gs : List Nat) : groupsText (g :: gs) ≠ [] := by
  cases gs with
  | nil =>
    rw [groupsText_singleton]
    exact Nat.toDigits_ne_nil
  | cons next gs =>
    rw [groupsText_cons]
    simp

/-- One group and the end: the group is read. -/
theorem groups?_toDigits (hn : n < 65536) (hread : read.length < 8) :
    groups? read gap (Nat.toDigits 16 n) = some (read ++ [n], gap) := by
  obtain ⟨c, rest, hdigits, hc⟩ := toDigits_eq_cons n
  have hspan := takeWhile_group hn (.inl rfl)
  rw [List.append_nil] at hspan
  rw [hdigits]
  exact groups?_of_last hc hread (hdigits ▸ hspan) (Hex.read?_toDigits n) (by simp [hdigits])

/-- One group and a colon: the group is read, and what follows is read on. -/
theorem groups?_toDigits_colon (hn : n < 65536) (hread : read.length < 8) (hmore : more ≠ []) :
    groups? read gap (Nat.toDigits 16 n ++ ':' :: more) = groups? (read ++ [n]) gap more := by
  obtain ⟨c, rest, hdigits, hc⟩ := toDigits_eq_cons n
  have hspan := takeWhile_group hn (show _ ∨ (':' :: more).head? = some ':' from .inr rfl)
  rw [hdigits, List.cons_append] at hspan ⊢
  exact groups?_of_colon hc hread hspan (hdigits ▸ Hex.read?_toDigits n) (by simp) hmore

/-- Groups that are written out are read one by one. -/
theorem groups?_groupsText {gs : List Nat} (hgs : ∀ g ∈ gs, g < 65536)
    (hroom : read.length + gs.length ≤ 8) :
    groups? read gap (groupsText gs) = some (read ++ gs, gap) := by
  -- on the groups that are written: each is read, and joins those read before
  induction gs generalizing read with
  | nil => simp [groupsText, groups?]
  | cons g gs ih =>
    obtain ⟨hg, hgs⟩ := List.forall_mem_cons.mp hgs
    rw [List.length_cons] at hroom
    have hread : read.length < 8 := by omega
    have hroom' : (read ++ [g]).length + gs.length ≤ 8 := by
      rw [List.length_append, List.length_singleton]
      omega
    cases gs with
    | nil =>
      rw [groupsText_singleton]
      exact groups?_toDigits hg hread
    | cons next gs =>
      rw [groupsText_cons, groups?_toDigits_colon hg hread (groupsText_ne_nil next gs),
        ih hgs hroom', List.append_assoc, List.singleton_append]

/-- Groups before a colon are read one by one. -/
theorem groups?_groupsText_colon {gs : List Nat} (hne : gs ≠ []) (hgs : ∀ g ∈ gs, g < 65536)
    (hroom : read.length + gs.length ≤ 8) (hmore : more ≠ []) :
    groups? read gap (groupsText gs ++ ':' :: more) = groups? (read ++ gs) gap more := by
  -- as before, but the last group has a colon after it too
  induction gs generalizing read with
  | nil => exact absurd rfl hne
  | cons g gs ih =>
    obtain ⟨hg, hgs⟩ := List.forall_mem_cons.mp hgs
    rw [List.length_cons] at hroom
    have hread : read.length < 8 := by omega
    have hroom' : (read ++ [g]).length + gs.length ≤ 8 := by
      rw [List.length_append, List.length_singleton]
      omega
    cases gs with
    | nil =>
      rw [groupsText_singleton]
      exact groups?_toDigits_colon hg hread hmore
    | cons next gs =>
      rw [groupsText_cons, List.append_assoc, List.cons_append,
        groups?_toDigits_colon hg hread (by simp), ih (by simp) hgs hroom', List.append_assoc,
        List.singleton_append]

end Groups

-- ---------------------------------------------------------------------------
-- IPv6: the omitted groups
-- ---------------------------------------------------------------------------

/-- Whether a run of zeros, by start and length, is in a list. -/
def ZerosAt (gs : List Nat) (run : Nat × Nat) : Prop :=
  ∃ before after, gs = before ++ List.replicate run.2 0 ++ after ∧ before.length = run.1

/-- The better of the best run so far and the one in progress. -/
theorem ZerosAt.better {gs xs : List Nat} {place run : Nat} {best : Nat × Nat}
    (hbest : ZerosAt gs best) (before : List Nat)
    (hgs : gs = before ++ List.replicate run 0 ++ xs) (hplace : before.length + run = place) :
    ZerosAt gs (if best.2 < run then (place - run, run) else best) := by
  split
  · exact ⟨before, xs, hgs, by simp only; omega⟩
  · exact hbest

/-- The groups that are left out are zeros. -/
theorem zerosAt_longestZeros {gs xs : List Nat} {place run : Nat} {best : Nat × Nat}
    (hbest : ZerosAt gs best) (before : List Nat)
    (hgs : gs = before ++ List.replicate run 0 ++ xs) (hplace : before.length + run = place) :
    ZerosAt gs (longestZeros xs place run best) := by
  -- on the groups that come; `place` and `run` tell where the zeros before them began
  induction xs generalizing place run best before with
  | nil => exact hbest.better before hgs hplace
  | cons n xs ih =>
    rw [longestZeros]
    split
    · rename_i hzero
      refine ih hbest before ?_ (by omega)
      rw [hgs, hzero, List.replicate_succ']
      simp
    · refine ih (hbest.better before hgs hplace) (before ++ List.replicate run 0 ++ [n]) ?_ ?_
      · rw [hgs]
        simp
      · simp only [List.length_append, List.length_replicate, List.length_singleton]
        omega

-- ---------------------------------------------------------------------------
-- IPv6: whole addresses
-- ---------------------------------------------------------------------------

/-- Whether a list can be the groups of an address. -/
structure IsGroups (gs : List Nat) : Prop where
  length : gs.length = 8
  lt : ∀ g ∈ gs, g < 65536

/-- A text that begins with a digit has no omitted groups at its start. -/
theorem readV6?_of_digits (g : Nat) {tail : List Char} (htail : tail ≠ []) :
    readV6? (Nat.toDigits 16 g ++ tail)
      = (groups? [] none (Nat.toDigits 16 g ++ tail)).bind fill? := by
  obtain ⟨c, rest, hdigits, hc⟩ := toDigits_eq_cons g
  obtain ⟨d, rest', hrest⟩ : ∃ d rest', rest ++ tail = d :: rest' :=
    List.exists_cons_of_ne_nil fun hnil => htail (List.append_eq_nil_iff.mp hnil).2
  rw [hdigits, List.cons_append, hrest, readV6?]
  all_goals
    intros
    simp_all

/-- IPv6: the omitted groups are filled in where they were left out. -/
theorem fill?_of_gap {before after : List Nat} (h : before.length + 1 + after.length ≤ 8) :
    fill? (before ++ [0] ++ after, some (before.length + 1))
      = some (before ++ List.replicate (8 - (before.length + after.length)) 0 ++ after) := by
  have hlength : (before ++ [0] ++ after).length = before.length + 1 + after.length := by
    simp only [List.length_append, List.length_singleton]
  have htake : (before ++ [0] ++ after).take (before.length + 1) = before ++ [0] := by
    rw [List.take_left' (by simp)]
  have hdrop : (before ++ [0] ++ after).drop (before.length + 1) = after := by
    rw [List.drop_left' (by simp)]
  have hzeros : 8 - (before.length + after.length)
      = 8 - (before.length + 1 + after.length) + 1 := by omega
  rw [fill?, hlength, if_pos h, htake, hdrop, hzeros, List.replicate_succ]
  simp

/-- Groups are written with colons and hexadecimal digits only. -/
theorem mem_groupsText {gs : List Nat} {c : Char} (h : c ∈ groupsText gs) :
    c = ':' ∨ ∃ d, d < 16 ∧ c = d.digitChar := by
  refine (mem_intercalate h).imp_right ?_
  rintro ⟨part, hpart, hc⟩
  obtain ⟨n, -, rfl⟩ := List.mem_map.mp hpart
  exact Hex.exists_of_mem_toDigits hc

/-- The text of an address is written with digits and colons. -/
theorem mem_v6Text {gs : List Nat} {c : Char} (h : c ∈ v6Text gs) :
    c = ':' ∨ ∃ d, d < 16 ∧ c = d.digitChar := by
  rw [v6Text] at h
  generalize longestZeros gs 0 0 (0, 0) = run at h
  obtain ⟨start, zeros⟩ := run
  dsimp only at h
  split at h
  · exact mem_groupsText h
  · rcases List.mem_append.mp h with h | h
    · rcases List.mem_append.mp h with h | h
      · exact mem_groupsText h
      · exact .inl (by simpa using h)
    · exact mem_groupsText h

/-- What is written without some zeros is read with them. -/
theorem readV6?_of_omitted {before after : List Nat} {zeros : Nat}
    (h : IsGroups (before ++ List.replicate zeros 0 ++ after)) (hzeros : 0 < zeros) :
    readV6? (groupsText before ++ [':', ':'] ++ groupsText after)
      = some (before ++ List.replicate zeros 0 ++ after) := by
  have hlength := h.length
  simp only [List.length_append, List.length_replicate] at hlength
  have hbefore : ∀ g ∈ before, g < 65536 := fun g hg => h.lt g (by simp [hg])
  have hafter : ∀ g ∈ after, g < 65536 := fun g hg => h.lt g (by simp [hg])
  -- the gap is filled with just the zeros that were left out
  have hfill : fill? (before ++ [0] ++ after, some (before.length + 1))
      = some (before ++ List.replicate zeros 0 ++ after) := by
    rw [fill?_of_gap (by omega), show 8 - (before.length + after.length) = zeros by omega]
  have hgroups : groups? (before ++ [0]) (some (before.length + 1)) (groupsText after)
      = some (before ++ [0] ++ after, some (before.length + 1)) := by
    refine groups?_groupsText hafter ?_
    simp only [List.length_append, List.length_singleton]
    omega
  -- the double colon at the start is read by another equation than the one within
  cases before with
  | nil =>
    show (groups? [0] (some 1) (groupsText after)).bind fill? = _
    exact (congrArg (·.bind fill?) hgroups).trans hfill
  | cons g before =>
    -- up to the double colon, which is noted as the gap, and on from there
    have hcolon : groups? [] none (groupsText (g :: before) ++ ':' :: ':' :: groupsText after)
        = some (g :: before ++ [0] ++ after, some ((g :: before).length + 1)) := by
      rw [groups?_groupsText_colon (by simp) hbefore (by simp at hlength ⊢; omega) (by simp),
        List.nil_append, groups?.eq_2, if_neg (by simp at hlength ⊢; omega), hgroups]
    obtain ⟨tail, htail, hne⟩ : ∃ tail, groupsText (g :: before) ++ ':' :: ':' :: groupsText after
        = Nat.toDigits 16 g ++ tail ∧ tail ≠ [] := by
      cases before with
      | nil => exact ⟨_, by rw [groupsText_singleton], by simp⟩
      | cons next before =>
        exact ⟨_, by rw [groupsText_cons, List.append_assoc], by simp⟩
    rw [List.append_assoc]
    show readV6? (groupsText (g :: before) ++ ':' :: ':' :: groupsText after) = _
    rw [htail] at hcolon ⊢
    rw [readV6?_of_digits g hne, hcolon, Option.bind_some, hfill]

/-- The text of an address is read as this address. -/
theorem readV6?_v6Text {gs : List Nat} (h : IsGroups gs) : readV6? (v6Text gs) = some gs := by
  have hzeros : ZerosAt gs (longestZeros gs 0 0 (0, 0)) :=
    zerosAt_longestZeros ⟨[], gs, rfl, rfl⟩ [] rfl rfl
  -- the run that is left out consists of zeros, whichever it is
  obtain ⟨before, after, hgs, hstart⟩ := hzeros
  rw [v6Text]
  generalize longestZeros gs 0 0 (0, 0) = run at hgs hstart ⊢
  obtain ⟨start, zeros⟩ := run
  dsimp only at hgs hstart ⊢
  split
  · have hlength := h.length
    -- no run is long enough: all eight groups are written
    obtain ⟨g, next, rest, rfl⟩ : ∃ g next rest, gs = g :: next :: rest := by
      match gs, hlength with
      | g :: next :: rest, _ => exact ⟨g, next, rest, rfl⟩
    rw [groupsText_cons, readV6?_of_digits g (by simp), ← groupsText_cons,
      groups?_groupsText h.lt (by simp [hlength])]
    simp [fill?, hlength]
  · have htake : gs.take start = before := by
      rw [hgs, List.append_assoc, List.take_left' hstart]
    have hdrop : gs.drop (start + zeros) = after := by
      rw [hgs, List.drop_left' (by simp [hstart])]
    rw [htake, hdrop, hgs]
    exact readV6?_of_omitted (hgs ▸ h) (by omega)

/-- What a list is mapped to comes from the elements of the list. -/
theorem exists_of_mem_mapM {α β : Type} {f : α → Option β} {xs : List α} {ys : List β} {y : β}
    (h : xs.mapM f = some ys) (hy : y ∈ ys) : ∃ x ∈ xs, f x = some y := by
  induction xs generalizing ys with
  | nil =>
    obtain rfl := Option.some.inj h
    cases hy
  | cons x xs ih =>
    rw [List.mapM_cons, Option.bind_eq_bind, Option.bind_eq_some_iff] at h
    obtain ⟨first, hfirst, h⟩ := h
    rw [Option.bind_eq_bind, Option.bind_eq_some_iff] at h
    obtain ⟨others, hothers, h⟩ := h
    obtain rfl := Option.some.inj h
    rcases List.mem_cons.mp hy with rfl | hy
    · exact ⟨x, List.mem_cons_self, hfirst⟩
    · obtain ⟨found, hmem, hfound⟩ := ih hothers hy
      exact ⟨found, List.mem_cons_of_mem _ hmem, hfound⟩

/-- A decimal octet is below 256. -/
theorem lt_of_decimalOctet? {cs : List Char} {b : Nat} (h : decimalOctet? cs = some b) :
    b < 256 := by
  rw [decimalOctet?.eq_def] at h
  split at h
  · cases h
  · cases h
  · split at h
    · rename_i hguard
      simp only [Bool.and_eq_true, decide_eq_true_eq] at hguard
      rw [← Option.some.inj h]
      exact hguard.2
    · cases h

/-- The groups of an embedded address have sixteen bits each. -/
theorem lt_of_mem_embeddedV4? {cs : List Char} {tail : List Nat} (h : embeddedV4? cs = some tail) :
    ∀ g ∈ tail, g < 65536 := by
  rw [embeddedV4?] at h
  split at h
  · rename_i a b c d hoctets
    have hlt : ∀ n ∈ [a, b, c, d], n < 256 := fun n hn => by
      obtain ⟨part, -, hpart⟩ := exists_of_mem_mapM hoctets hn
      exact lt_of_decimalOctet? hpart
    obtain rfl := Option.some.inj h
    simp only [List.mem_cons, List.not_mem_nil, or_false, forall_eq_or_imp, forall_eq] at hlt ⊢
    omega
  · cases h

/-- Reading on from a character that is no colon ends with groups or goes on after one. -/
theorem groups?_cases {read : List Nat} {gap : Option Nat} {c : Char} {rest : List Char}
    {result : List Nat × Option Nat} (hc : c ≠ ':')
    (h : groups? read gap (c :: rest) = some result) :
    (∃ tail, (∀ g ∈ tail, g < 65536) ∧ result = (read ++ tail, gap))
      ∨ ∃ n more, n < 65536 ∧ more.length < (c :: rest).length
        ∧ groups? (read ++ [n]) gap more = some result := by
  -- four digits at most make a group, so it has sixteen bits
  have hlt : ∀ n, Hex.read? (((c :: rest).take 4).takeWhile fun d => (Hex.value? d).isSome) = some n
      → n < 65536 := by
    intro n hn
    have hlength : (((c :: rest).take 4).takeWhile fun d => (Hex.value? d).isSome).length ≤ 4 :=
      Nat.le_trans (List.takeWhile_prefix _).length_le (by rw [List.length_take]; omega)
    exact Nat.lt_of_lt_of_le (Hex.read?_lt hn) (Nat.pow_le_pow_right (by decide) hlength)
  rw [groups?.eq_3 _ _ _ _ hc] at h
  split at h
  · cases h
  · dsimp only at h
    split at h
    · cases h
    · rename_i n hn _
      exact .inl ⟨[n], by simpa using hlt n hn, (Option.some.inj h).symm⟩
    · split at h
      · cases h
      · obtain ⟨tail, htail, rfl⟩ := Option.map_eq_some_iff.mp h
        exact .inl ⟨tail, lt_of_mem_embeddedV4? htail, rfl⟩
    · rename_i n more hn hdrop
      split at h
      · cases h
      · have hlength := congrArg List.length hdrop
        simp only [List.length_drop, List.length_cons] at hlength ⊢
        exact .inr ⟨n, more, hlt n hn, by omega, h⟩
    · cases h

/-- Groups that are read are numbers of sixteen bits. -/
theorem lt_of_groups? {read : List Nat} {gap : Option Nat} {cs : List Char}
    {result : List Nat × Option Nat} (hread : ∀ g ∈ read, g < 65536)
    (h : groups? read gap cs = some result) : ∀ g ∈ result.1, g < 65536 := by
  induction hlength : cs.length using Nat.strongRecOn generalizing read gap cs with
  | ind length ih =>
    subst hlength
    have hgoes : ∀ n gap' more, n < 65536 → more.length < cs.length →
        groups? (read ++ [n]) gap' more = some result → ∀ g ∈ result.1, g < 65536 :=
      fun n gap' more hn hmore h' => ih more.length hmore
        (List.forall_mem_append.mpr ⟨hread, List.forall_mem_singleton.mpr hn⟩) h' rfl
    cases cs with
    | nil =>
      rw [groups?.eq_1] at h
      rw [← Option.some.inj h]
      exact hread
    | cons c rest =>
      by_cases hc : c = ':'
      · subst hc
        rw [groups?.eq_2] at h
        split at h
        · cases h
        · exact hgoes 0 _ rest (by decide) (Nat.lt_succ_self _) h
      · rcases groups?_cases hc h with ⟨tail, htail, rfl⟩ | ⟨n, more, hn, hmore, h⟩
        · exact List.forall_mem_append.mpr ⟨hread, htail⟩
        · exact hgoes n gap more hn hmore h

/-- Groups that are filled up to eight are the groups of an address. -/
theorem isGroups_of_fill? {result : List Nat × Option Nat} {gs : List Nat}
    (hlt : ∀ g ∈ result.1, g < 65536) (h : fill? result = some gs) : IsGroups gs := by
  obtain ⟨read, gap⟩ := result
  cases gap with
  | none =>
    rw [fill?] at h
    split at h
    · rename_i hlength
      obtain rfl := Option.some.inj h
      exact ⟨hlength, hlt⟩
    · cases h
  | some gap =>
    rw [fill?] at h
    split at h
    · rename_i hlength
      obtain rfl := Option.some.inj h
      refine ⟨?_, fun g hg => ?_⟩
      · simp only [List.length_append, List.length_take, List.length_replicate, List.length_drop]
        omega
      · rcases List.mem_append.mp hg with hg | hg
        · rcases List.mem_append.mp hg with hg | hg
          · exact hlt g (List.mem_of_mem_take hg)
          · rw [List.eq_of_mem_replicate hg]
            decide
        · exact hlt g (List.mem_of_mem_drop hg)
    · cases h

/-- An address that is read has eight groups of sixteen bits. -/
theorem isGroups_of_readV6? {cs : List Char} {gs : List Nat} (h : readV6? cs = some gs) :
    IsGroups gs := by
  have hfilled : ∀ {read gap rest}, (∀ g ∈ read, g < 65536) →
      (groups? read gap rest).bind fill? = some gs → IsGroups gs := by
    intro read gap rest hread h
    obtain ⟨result, hgroups, hfill⟩ := Option.bind_eq_some_iff.mp h
    exact isGroups_of_fill? (lt_of_groups? hread hgroups) hfill
  rw [readV6?.eq_def] at h
  split at h
  · exact hfilled (by simp) h
  · cases h
  · exact hfilled (by simp) h
  · cases h

end Address

end WebhookDelivery
