import WebhookDelivery.Http.Request
import WebhookDelivery.Proofs.Identifiers
import WebhookDelivery.Proofs.UrlForm

/-!
# URLs written and read back

The text of a URL in normal form is read as this URL, if its host name is its own ASCII form. The
reader takes the text apart at marks that mean something: the `@` and the colon of the authority,
brackets, slashes, question mark and hash. It finds them where they were written, because each part
holds none of the marks that end it.

* `Url.readUserInfo_userInfoChars`, `Url.spanHost_chars`, `Url.readHost_chars`,
  `Url.readPort_portChars`, `Url.readPath_intercalate` and so on — every part is read back.
* `Url.read_chars` — the whole text is.
* `Url.parse_text` — the text of a URL that was read is read as this URL.
-/

namespace WebhookDelivery.Url

-- ---------------------------------------------------------------------------
-- The authority is read back
-- ---------------------------------------------------------------------------

/-- Whether a character may stand in a host or port: it neither marks the end of the user name nor
ends the authority. -/
structure IsHostChar (c : Char) : Prop where
  visible : IsVisible c
  notAt : c ≠ '@'
  notEnding : endsAuthority true c = false

theorem isHostChar_of_isPlain {c : Char} (h : Domain.IsPlain c) : IsHostChar c := by
  have hinert := Percent.isInert_of_isPlain h
  exact ⟨hinert.visible, hinert.notAt, hinert.notEnding⟩

theorem isPlain_of_isDigit {c : Char} (h : c.isDigit = true) : Domain.IsPlain c := by
  have hsettled := Domain.IsSmall.settled (.inl h)
  exact ⟨hsettled.ascii, hsettled.allowed⟩

/-- Hexadecimal digits may stand in a name. -/
theorem isPlain_digitChar {d : Nat} (h : d < 16) : Domain.IsPlain d.digitChar := by
  have hall : ∀ k : Fin 16, k.val.digitChar.toNat < 0x80
      ∧ Domain.isForbidden k.val.digitChar = false := by
    decide +kernel
  exact hall ⟨d, h⟩

/-- An IPv4 address is written with what may stand in a name. -/
theorem isPlain_v4Text {a : Nat} {c : Char} (h : c ∈ Address.v4Text a) : Domain.IsPlain c := by
  rcases Address.mem_v4Text h with rfl | hdigit
  · exact ⟨by decide, by decide +kernel⟩
  · exact isPlain_of_isDigit hdigit

/-- A host is written without anything that ends it, unless it is in brackets. -/
theorem isHostChar_of_mem_chars {host : Host} (h : host.Normal) {c : Char} (hc : c ∈ host.chars) :
    IsHostChar c := by
  cases host with
  | name cs => exact isHostChar_of_isPlain (h.2.1 c hc)
  | v4 a => exact isHostChar_of_isPlain (isPlain_v4Text hc)
  | v6 groups =>
    simp only [Host.chars, List.cons_append, List.mem_cons, List.mem_append, List.not_mem_nil,
      or_false] at hc
    rcases hc with rfl | hc | rfl
    · exact ⟨by decide, by decide, by decide⟩
    · rcases Address.mem_v6Text hc with rfl | ⟨d, hd, rfl⟩
      · exact ⟨by decide, by decide, by decide⟩
      · exact isHostChar_of_isPlain (isPlain_digitChar hd)
    · exact ⟨by decide, by decide, by decide⟩

/-- A host ends no earlier than its characters do. -/
theorem spanHost_append {inside : Bool} {cs after : List Char}
    (h : ∀ c ∈ cs, endsAuthority true c = false ∧ (c = ':' → inside = true) ∧ c ≠ '[' ∧ c ≠ ']') :
    spanHost true inside (cs ++ after)
      = (cs ++ (spanHost true inside after).1, (spanHost true inside after).2) := by
  induction cs with
  | nil => rfl
  | cons c cs ih =>
    obtain ⟨⟨hends, hcolon, hopen, hclose⟩, hcs⟩ := List.forall_mem_cons.mp h
    have hgoes : ¬ (endsAuthority true c || (c == ':' && !inside)) = true := by
      rw [hends, Bool.false_or, Bool.and_eq_true, beq_iff_eq, Bool.not_eq_true']
      rintro ⟨heq, hout⟩
      rw [hcolon heq] at hout
      cases hout
    rw [List.cons_append, spanHost, if_neg hgoes, if_neg hopen, if_neg hclose]
    dsimp only
    rw [ih hcs]
    rfl

/-- The host is over where a colon or a slash follows. -/
theorem spanHost_over {after : List Char} (h : after.head? = some ':' ∨ after.head? = some '/') :
    spanHost true false after = ([], after) := by
  cases after with
  | nil => rfl
  | cons c after =>
    have hstops : (endsAuthority true c || (c == ':' && !false)) = true := by
      rcases h with h | h <;> obtain rfl := Option.some.inj h <;> rfl
    rw [spanHost, if_pos hstops]

/-- A host is read as far as it was written. -/
theorem spanHost_chars {host : Host} (h : host.Normal) {after : List Char}
    (hafter : after.head? = some ':' ∨ after.head? = some '/') :
    spanHost true false (host.chars ++ after) = (host.chars, after) := by
  have hplain : ∀ {cs : List Char}, (∀ c ∈ cs, Domain.IsPlain c) →
      spanHost true false (cs ++ after) = (cs, after) := by
    intro cs hcs
    rw [spanHost_append, spanHost_over hafter, List.append_nil]
    intro c hc
    have hinert := Percent.isInert_of_isPlain (hcs c hc)
    exact ⟨hinert.notEnding, fun heq => absurd heq hinert.notColon, hinert.notOpening,
      hinert.notClosing⟩
  cases host with
  | name cs => exact hplain h.2.1
  | v4 a => exact hplain fun c => isPlain_v4Text
  | v6 groups =>
    have hopen : spanHost true false ('[' :: (Address.v6Text groups ++ ']' :: after))
        = ('[' :: (spanHost true true (Address.v6Text groups ++ ']' :: after)).1,
          (spanHost true true (Address.v6Text groups ++ ']' :: after)).2) := rfl
    have hclose : spanHost true true (']' :: after)
        = (']' :: (spanHost true false after).1, (spanHost true false after).2) := rfl
    -- between the brackets colons are part of the host
    have hinside : ∀ c ∈ Address.v6Text groups, endsAuthority true c = false
        ∧ (c = ':' → true = true) ∧ c ≠ '[' ∧ c ≠ ']' := by
      intro c hc
      rcases Address.mem_v6Text hc with rfl | ⟨d, hd, rfl⟩
      · decide
      · have hinert := Percent.isInert_of_isPlain (isPlain_digitChar hd)
        exact ⟨hinert.notEnding, fun _ => rfl, hinert.notOpening, hinert.notClosing⟩
    simp only [Host.chars, List.cons_append, List.append_assoc, List.nil_append]
    rw [hopen, spanHost_append hinside, hclose, spanHost_over hafter]

/-- The host that a name in ASCII stands for, if there is one. -/
def hostOf : Option (List Char) → Except Problem Host
  | none => .error .invalidName
  | some [] => .error .emptyHost
  | some name =>
    if Address.endsInNumber name then
      match Address.readV4? name with
      | some address => .ok (.v4 address)
      | none => .error .invalidV4
    else .ok (.name name)

/-- Without brackets and percent signs a host is what its name comes to in ASCII. -/
theorem readHost_eq {cs : List Char} (hopen : cs.head? ≠ some '[') (hmarks : ∀ c ∈ cs, c ≠ '%') :
    readHost cs = hostOf (Domain.toAscii? cs) := by
  have hname : ((strictText? (Percent.decode (utf8 (String.ofList cs)))).bind fun decoded =>
      Domain.toAscii? decoded.toList) = Domain.toAscii? cs := by
    rw [Percent.decode_text hmarks, Option.bind_some, String.toList_ofList]
  exact (if_neg hopen).trans (congrArg hostOf hname)

/-- What may stand in the ASCII form of a name is as bare as that. -/
theorem bare_of_plain {cs : List Char} (hcs : ∀ c ∈ cs, Domain.IsPlain c) :
    cs.head? ≠ some '[' ∧ ∀ c ∈ cs, c ≠ '%' :=
  ⟨fun hhead => (Percent.isInert_of_isPlain (hcs _ (List.mem_of_head? hhead))).notOpening rfl,
    fun c hc => (Percent.isInert_of_isPlain (hcs c hc)).notPercent⟩

/-- What is its own ASCII form is read as the address that it must be, or else as a name. -/
theorem readHost_of_plain {cs : List Char} (hcs : ∀ c ∈ cs, Domain.IsPlain c) (hne : cs ≠ [])
    (hascii : Domain.toAscii? cs = some cs) :
    readHost cs =
      if Address.endsInNumber cs then
        match Address.readV4? cs with
        | some address => .ok (.v4 address)
        | none => .error .invalidV4
      else .ok (.name cs) := by
  obtain ⟨hopen, hmarks⟩ := bare_of_plain hcs
  rw [readHost_eq hopen hmarks, hascii]
  cases cs with
  | nil => exact absurd rfl hne
  | cons c cs => rfl

/-- A host is read as it was written, if its name is its own ASCII form. -/
theorem readHost_chars {host : Host} (h : host.Normal)
    (hname : ∀ cs, host = .name cs → Domain.toAscii? cs = some cs) :
    readHost host.chars = .ok host := by
  -- each kind of host is told from the others by how it is written
  cases host with
  | name cs =>
    rw [Host.chars, readHost_of_plain h.2.1 h.1 (hname cs rfl), h.2.2]
    rfl
  | v4 a =>
    rw [Host.chars, readHost_of_plain (fun c => isPlain_v4Text) (Address.v4Text_ne_nil a)
      (Domain.toAscii?_of_small fun c hc => (Address.mem_v4Text hc).imp_right .inl),
      Address.endsInNumber_v4Text, Address.readV4?_v4Text h]
    rfl
  | v6 groups =>
    have hopen : ('[' :: Address.v6Text groups ++ [']']).head? = some '[' := rfl
    have hlast : ('[' :: Address.v6Text groups ++ [']']).getLast? = some ']' :=
      List.getLast?_concat
    have hinner : ('[' :: Address.v6Text groups ++ [']']).tail.dropLast
        = Address.v6Text groups := by
      simp
    rw [Host.chars, readHost, if_pos hopen, readBracketed, if_pos hlast, hinner,
      Address.readV6?_v6Text h]

theorem chars_ne_nil {host : Host} (h : host.Normal) : host.chars ≠ [] := by
  cases host with
  | name cs => exact h.1
  | v4 a => exact Address.v4Text_ne_nil a
  | v6 groups => exact List.cons_ne_nil _ _

-- ---------------------------------------------------------------------------
-- User name and password
-- ---------------------------------------------------------------------------

section UserInfo

variable {info hostPort after : List Char}

/-- The authority reaches as far as the slash of the path. -/
theorem takeWhile_authority {cs : List Char} (hcs : ∀ c ∈ cs, endsAuthority true c = false)
    (hafter : after.head? = some '/') :
    (cs ++ after).takeWhile (!endsAuthority true ·) = cs := by
  refine takeWhile_until (fun c hc => by rw [hcs c hc]; rfl) fun c hc => ?_
  rw [hafter] at hc
  cases hc
  rfl

/-- Without a mark there is nothing to split off. -/
theorem cutUserInfo?_of_no_mark
    (hhost : ∀ c ∈ hostPort, c ≠ '@' ∧ endsAuthority true c = false) (hafter : after.head? = some '/') :
    cutUserInfo? true (hostPort ++ after) = none := by
  have hauthority := takeWhile_authority (fun c hc => (hhost c hc).2) hafter
  have hlast : hostPort.reverse.takeWhile (· ≠ '@') = hostPort.reverse :=
    takeWhile_all fun c hc => by simp [(hhost c (List.mem_reverse.mp hc)).1]
  rw [cutUserInfo?, hauthority]
  dsimp only
  rw [hlast, List.reverse_reverse, if_pos rfl]

/-- The text before the last mark of the authority is split off. -/
theorem cutUserInfo?_of_mark (hinfo : ∀ c ∈ info, endsAuthority true c = false)
    (hhost : ∀ c ∈ hostPort, IsHostChar c)
    (hafter : after.head? = some '/') :
    cutUserInfo? true (info ++ '@' :: (hostPort ++ after)) = some (info, hostPort ++ after) := by
  have hall : ∀ c ∈ info ++ '@' :: hostPort, endsAuthority true c = false := by
    refine List.forall_mem_append.mpr ⟨hinfo, List.forall_mem_cons.mpr ⟨rfl, ?_⟩⟩
    exact fun c hc => (hhost c hc).notEnding
  have hauthority := takeWhile_authority hall hafter
  -- no mark comes after this one, as host and port have none
  have hlast : (info ++ '@' :: hostPort).reverse.takeWhile (· ≠ '@') = hostPort.reverse := by
    rw [List.reverse_append, List.reverse_cons, List.append_assoc]
    refine takeWhile_until (fun c hc => ?_) fun c hc => ?_
    · simp [(hhost c (List.mem_reverse.mp hc)).notAt]
    · cases hc
      rfl
  rw [List.append_assoc, List.cons_append] at hauthority
  rw [cutUserInfo?, hauthority]
  dsimp only
  have hshorter : ¬ hostPort.length = (info ++ '@' :: hostPort).length := by
    rw [List.length_append, List.length_cons]
    omega
  rw [hlast, List.reverse_reverse, if_neg hshorter]
  have hbefore : (info ++ '@' :: hostPort).length - hostPort.length - 1 = info.length := by
    rw [List.length_append, List.length_cons]
    omega
  rw [hbefore, List.take_left' rfl, ← List.drop_drop, List.drop_left' rfl]
  rfl

/-- User name and password of a URL as they are written before the mark. -/
def infoChars (u : Url) : List Char :=
  if u.password.isEmpty then u.user else u.user ++ ':' :: u.password

theorem userInfoChars_eq (u : Url) :
    u.userInfoChars = if u.infoChars.isEmpty then [] else u.infoChars ++ ['@'] := by
  rw [userInfoChars, infoChars]
  cases u.user <;> cases u.password <;> simp

/-- User name and password are told apart by the colon. -/
theorem splitUserInfo_infoChars {u : Url} (h : u.Normal) :
    splitUserInfo u.infoChars = (u.user, u.password) := by
  -- a colon in the user name would have been encoded
  have hcolon : ∀ c ∈ u.user, decide (c ≠ ':') = true := fun c hc =>
    decide_eq_true (Percent.facts_inUserInfo (h.user c hc)).2.1
  have huser := Percent.encode_eq_self h.user
  have hpassword := Percent.encode_eq_self h.password
  rw [splitUserInfo, infoChars]
  split
  · rename_i hempty
    rw [List.isEmpty_iff] at hempty
    rw [takeWhile_all hcolon, dropWhile_all hcolon, huser, hempty]
    rfl
  · have hstop : ∀ c ∈ (':' :: u.password).head?, decide (c ≠ ':') = false := by
      rintro c ⟨⟩
      rfl
    rw [takeWhile_until hcolon hstop, dropWhile_until hcolon hstop, huser, List.tail_cons,
      hpassword]

/-- User name and password are read as they were written. -/
theorem readUserInfo_userInfoChars {u : Url} (h : u.Normal)
    (hhost : ∀ c ∈ hostPort, IsHostChar c)
    (hafter : after.head? = some '/') :
    readUserInfo true (u.userInfoChars ++ (hostPort ++ after))
      = .ok ((u.user, u.password), hostPort ++ after) := by
  have hsplit := splitUserInfo_infoChars h
  have hinfo : ∀ c ∈ u.infoChars, endsAuthority true c = false := by
    have hends : ∀ c, Percent.inUserInfo c = false → endsAuthority true c = false :=
      fun c hc => (Percent.facts_inUserInfo hc).2.2.2
    rw [infoChars]
    split
    · exact fun c hc => hends c (h.user c hc)
    · refine List.forall_mem_append.mpr ⟨fun c hc => hends c (h.user c hc),
        List.forall_mem_cons.mpr ⟨rfl, fun c hc => hends c (h.password c hc)⟩⟩
  rw [userInfoChars_eq]
  generalize u.infoChars = info at hsplit hinfo ⊢
  -- without user name and password there is no mark
  cases info with
  | nil =>
    have hnone : (u.user, u.password) = ([], []) := hsplit.symm
    rw [hnone, readUserInfo, List.isEmpty_nil, if_pos rfl, List.nil_append,
      cutUserInfo?_of_no_mark (fun c hc => ⟨(hhost c hc).notAt, (hhost c hc).notEnding⟩) hafter]
  | cons c info =>
    rw [readUserInfo, List.isEmpty_cons, if_neg Bool.false_ne_true, List.append_assoc,
      List.singleton_append, cutUserInfo?_of_mark hinfo hhost hafter]
    dsimp only
    rw [hsplit]

end UserInfo

-- ---------------------------------------------------------------------------
-- Port, path, query and fragment
-- ---------------------------------------------------------------------------

/-- The port as it is written. -/
def portChars (u : Url) : List Char :=
  marked ':' (u.port.map (Nat.toDigits 10))

/-- What is written after the authority. -/
def restChars (u : Url) : List Char :=
  u.pathChars ++ (marked '?' u.query ++ marked '#' u.fragment)

/-- A URL is written as scheme, user information, host, port and the rest. -/
theorem chars_eq (u : Url) :
    u.chars = schemeName u.secure ++ ("://".toList ++ (u.userInfoChars
      ++ ((u.host.chars ++ u.portChars) ++ u.restChars))) := by
  simp only [chars, portChars, restChars, List.append_assoc]

/-- A path is written with a slash before each segment. -/
theorem pathChars_eq {u : Url} (h : u.path ≠ []) :
    u.pathChars = '/' :: List.intercalate ['/'] u.path := by
  rw [pathChars]
  generalize u.path = path at h
  induction path with
  | nil => exact absurd rfl h
  | cons segment rest ih =>
    cases rest with
    | nil => simp [List.intercalate_singleton]
    | cons next rest =>
      rw [List.flatMap_cons, ih (by simp), List.intercalate_cons_cons]
      simp

/-- A port is read as it was written, if it is not the usual one. -/
theorem readPort_portChars {u : Url} (h : u.Normal) {after : List Char}
    (hafter : after.head? = some '/') :
    readPort (some (usualPort u.secure)) (u.portChars ++ after) = .ok (u.port, after) := by
  rw [portChars]
  cases hport : u.port with
  | none =>
    cases after with
    | nil => cases hafter
    | cons c after =>
      obtain rfl := Option.some.inj hafter
      rfl
  | some port =>
    obtain ⟨hrange, hunusual⟩ := h.port port hport
    have hdigits : ∀ c ∈ Nat.toDigits 10 port, c.isDigit = true := fun c =>
      Nat.isDigit_of_mem_toDigits (by decide) (by decide)
    -- the digits end where the path begins
    have hstop : ∀ c ∈ after.head?, c.isDigit = false := by
      rw [hafter]
      rintro c ⟨⟩
      rfl
    have hends : ¬ after.head?.any (!endsAuthority true ·) = true := by
      rw [hafter]
      decide
    have hmentioned : ¬ ((Nat.toDigits 10 port).isEmpty
        || decide (some port = some (usualPort u.secure))) = true := by
      simp [Nat.toDigits_ne_nil, hunusual]
    show readPort _ (':' :: (Nat.toDigits 10 port ++ after)) = _
    rw [readPort]
    rw [takeWhile_until hdigits hstop, dropWhile_until hdigits hstop, Decimal.read_toDigits,
      if_neg (by omega), if_neg hends, if_neg hmentioned]

/-- Where nothing stands for anything else, there is nothing to resolve. -/
theorem resolveDots_eq {above segments : List (List Char)}
    (h : ∀ segment ∈ segments, IsSegment segment) :
    resolveDots above segments = above.reverse ++ segments := by
  induction segments generalizing above with
  | nil => rw [resolveDots, List.append_nil]
  | cons segment rest ih =>
    obtain ⟨hsegment, hrest⟩ := List.forall_mem_cons.mp h
    have hup : ¬ isUp segment = true := Bool.eq_false_iff.mp hsegment.notUp
    have hhere : ¬ isHere segment = true := Bool.eq_false_iff.mp hsegment.notHere
    cases rest with
    | nil => rw [resolveDots, if_neg hup, if_neg hhere]
    | cons next rest =>
      rw [resolveDots.eq_3 _ _ _ (by simp), if_neg hup, if_neg hhere, ih hrest,
        List.reverse_cons, List.append_assoc, List.singleton_append]

/-- A path is read as it was written. -/
theorem readPath_intercalate {path : List (List Char)} (hne : path ≠ [])
    (h : ∀ segment ∈ path, IsSegment segment) :
    readPath [] (List.intercalate ['/'] path) = path := by
  have hcut : splitSegments (List.intercalate ['/'] path) = path := by
    rw [splitSegments_eq]
    exact cutAt_intercalate hne rfl fun segment hsegment => (h segment hsegment).uncut
  have hencoded : path.map (Percent.encode Percent.inPath) = path := by
    refine (List.map_congr_left fun segment hsegment => ?_).trans (List.map_id path)
    exact Percent.encode_eq_self (h segment hsegment).encoded
  rw [readPath, hcut, hencoded, List.reverse_nil, resolveDots_eq h]
  rfl

/-- The path holds neither mark. -/
theorem not_mark_of_mem_pathChars {u : Url} (h : u.Normal) {c : Char} (hc : c ∈ u.pathChars) :
    c ≠ '?' ∧ c ≠ '#' := by
  obtain ⟨segment, hsegment, hc⟩ := List.mem_flatMap.mp hc
  rcases List.mem_cons.mp hc with rfl | hc
  · decide
  · exact (Percent.facts_inPath ((h.path segment hsegment).encoded c hc)).2

/-- Query and path are over where the fragment begins. -/
theorem mark_of_mem_head (fragment : Option (List Char)) :
    ∀ c ∈ (marked '#' fragment).head?, decide (c ≠ '#') = false := by
  cases fragment <;> rintro c ⟨⟩
  rfl

section Rest

variable {u : Url} (h : u.Normal)

include h

/-- A path ends where query or fragment begin. -/
theorem path_until_mark : (∀ c ∈ u.pathChars, (c ≠ '?' && c ≠ '#' : Bool) = true)
    ∧ ∀ c ∈ (marked '?' u.query ++ marked '#' u.fragment).head?,
      (c ≠ '?' && c ≠ '#' : Bool) = false := by
  refine ⟨fun c hc => ?_, fun c hc => ?_⟩
  · simpa using not_mark_of_mem_pathChars h hc
  · cases hquery : u.query with
    | some query =>
      rw [hquery] at hc
      cases hc
      rfl
    | none =>
      cases hfragment : u.fragment with
      | some fragment =>
        rw [hquery, hfragment] at hc
        cases hc
        rfl
      | none =>
        rw [hquery, hfragment] at hc
        cases hc

/-- The path is over where the query or the fragment begins. -/
theorem beforeQuery_restChars : beforeQuery u.restChars = u.pathChars :=
  takeWhile_until (path_until_mark h).1 (path_until_mark h).2

/-- The query is read back. -/
theorem queryOf_restChars : queryOf u.restChars = u.query := by
  rw [queryOf, restChars, dropWhile_until (path_until_mark h).1 (path_until_mark h).2]
  cases hquery : u.query with
  | none => cases u.fragment <;> rfl
  | some query =>
    have hraw := h.query query hquery
    have hplain : ∀ c ∈ query, decide (c ≠ '#') = true := fun c hc =>
      decide_eq_true (Percent.facts_inQuery (hraw c hc)).2
    show some (Percent.encode Percent.inQuery
      ((query ++ marked '#' u.fragment).takeWhile (· ≠ '#'))) = some query
    rw [takeWhile_until hplain (mark_of_mem_head u.fragment), Percent.encode_eq_self hraw]

/-- The fragment is read back. -/
theorem fragmentOf_restChars : fragmentOf u.restChars = u.fragment := by
  -- neither path nor query has a hash, which would have been encoded
  have hplain : ∀ c ∈ u.pathChars ++ marked '?' u.query, decide (c ≠ '#') = true := by
    refine List.forall_mem_append.mpr ⟨fun c hc => decide_eq_true ?_, fun c hc => ?_⟩
    · exact (not_mark_of_mem_pathChars h hc).2
    · cases hquery : u.query with
      | none =>
        rw [hquery] at hc
        cases hc
      | some query =>
        rw [hquery] at hc
        rcases List.mem_cons.mp hc with rfl | hc
        · rfl
        · exact decide_eq_true (Percent.facts_inQuery (h.query query hquery c hc)).2
  rw [fragmentOf, restChars, ← List.append_assoc,
    dropWhile_until hplain (mark_of_mem_head u.fragment)]
  cases hfragment : u.fragment with
  | none => rfl
  | some fragment => exact congrArg some (Percent.encode_eq_self (h.fragment fragment hfragment))

end Rest

/-- The rest is read as it was written. -/
theorem ofParts_restChars {u : Url} (h : u.Normal) :
    ofParts u.secure (u.user, u.password) u.host u.port u.restChars = u := by
  have hpath : (if (beforeQuery u.restChars).head?.any isSlash
      then (beforeQuery u.restChars).tail else beforeQuery u.restChars)
      = List.intercalate ['/'] u.path := by
    rw [beforeQuery_restChars h, pathChars_eq h.path_ne_nil]
    rfl
  rw [ofParts, hpath, readPath_intercalate h.path_ne_nil h.path, queryOf_restChars h,
    fragmentOf_restChars h]

-- ---------------------------------------------------------------------------
-- The whole text
-- ---------------------------------------------------------------------------

/-- User information is visible, and does not end the authority. -/
theorem facts_of_mem_userInfoChars {u : Url} (h : u.Normal) {c : Char}
    (hc : c ∈ u.userInfoChars) : IsVisible c ∧ endsAuthority true c = false := by
  have hraw : ∀ d, Percent.inUserInfo d = false → IsVisible d ∧ endsAuthority true d = false :=
    fun d hd => ⟨(Percent.facts_inUserInfo hd).1, (Percent.facts_inUserInfo hd).2.2.2⟩
  -- a character of one of the two, the colon or the mark
  have hmem : c ∈ u.user ∨ c ∈ u.password ∨ c = ':' ∨ c = '@' := by
    rw [userInfoChars] at hc
    split at hc
    · cases hc
    · split at hc <;> simp only [List.mem_append, List.mem_cons, List.not_mem_nil, or_false] at hc
      · exact hc.elim .inl fun hat => .inr (.inr (.inr hat))
      · rcases hc with (hc | rfl | hc) | rfl
        · exact .inl hc
        · exact .inr (.inr (.inl rfl))
        · exact .inr (.inl hc)
        · exact .inr (.inr (.inr rfl))
  rcases hmem with hc | hc | rfl | rfl
  · exact hraw c (h.user c hc)
  · exact hraw c (h.password c hc)
  · decide
  · decide

/-- Host and port are written with what may stand there. -/
theorem isHostChar_of_mem_hostPort {u : Url} (h : u.Normal) {c : Char}
    (hc : c ∈ u.host.chars ++ u.portChars) : IsHostChar c := by
  rcases List.mem_append.mp hc with hc | hc
  · exact isHostChar_of_mem_chars h.host hc
  · rw [portChars] at hc
    cases hport : u.port with
    | none =>
      rw [hport] at hc
      cases hc
    | some port =>
      rw [hport] at hc
      rcases List.mem_cons.mp hc with rfl | hc
      · exact ⟨by decide, by decide, by decide⟩
      · have hdigit := Nat.isDigit_of_mem_toDigits (by decide) (by decide) hc
        exact isHostChar_of_isPlain (isPlain_of_isDigit hdigit)

/-- The rest of a URL is visible. -/
theorem isVisible_of_mem_restChars {u : Url} (h : u.Normal) {c : Char} (hc : c ∈ u.restChars) :
    IsVisible c := by
  have hmarked : ∀ {mark : Char} {part : Option (List Char)}, IsVisible mark →
      (∀ cs, part = some cs → ∀ d ∈ cs, IsVisible d) → c ∈ marked mark part → IsVisible c := by
    intro mark part hmark hpart hc
    cases part with
    | none => cases hc
    | some cs =>
      rcases List.mem_cons.mp hc with rfl | hc
      · exact hmark
      · exact hpart cs rfl c hc
  rcases List.mem_append.mp hc with hc | hc
  · obtain ⟨segment, hsegment, hc⟩ := List.mem_flatMap.mp hc
    rcases List.mem_cons.mp hc with rfl | hc
    · decide
    · exact (Percent.facts_inPath ((h.path segment hsegment).encoded c hc)).1
  · rcases List.mem_append.mp hc with hc | hc
    · refine hmarked (by decide) (fun query hquery d hd => ?_) hc
      exact (Percent.facts_inQuery (h.query query hquery d hd)).1
    · refine hmarked (by decide) (fun fragment hfragment d hd => ?_) hc
      exact Percent.facts_inFragment (h.fragment fragment hfragment d hd)

/-- The text of a URL is visible throughout. -/
theorem isVisible_of_mem_chars {u : Url} (h : u.Normal) {c : Char} (hc : c ∈ u.chars) :
    IsVisible c := by
  rw [chars_eq] at hc
  have hscheme : (schemeName u.secure ++ "://".toList).all (fun d => decide (IsVisible d))
      = true := by
    cases u.secure <;> decide
  rw [← List.append_assoc] at hc
  rcases List.mem_append.mp hc with hc | hc
  · exact of_decide_eq_true (List.all_eq_true.mp hscheme c hc)
  · rcases List.mem_append.mp hc with hc | hc
    · exact (facts_of_mem_userInfoChars h hc).1
    · rcases List.mem_append.mp hc with hc | hc
      · exact (isHostChar_of_mem_hostPort h hc).visible
      · exact isVisible_of_mem_restChars h hc

/-- What is beyond the controls and the space is not cleaned away. -/
theorem clean_eq_self {cs : List Char} (h : ∀ c ∈ cs, 0x20 < c.toNat) : clean cs = cs := by
  have houter : ∀ l : List Char, (∀ c ∈ l, 0x20 < c.toNat) → l.dropWhile isOuter = l := by
    intro l hl
    refine dropWhile_none fun c hc => ?_
    have hvisible := hl c (List.mem_of_head? hc)
    exact decide_eq_false (by omega)
  -- what is dropped from within are tabs and line ends
  have hdropped : ∀ c ∈ cs, (!isDropped c) = true := by
    intro c hc
    have hvisible := h c hc
    have hne : ∀ d : Char, d.toNat ≤ 0x20 → c ≠ d := by
      rintro d hd rfl
      omega
    simp [isDropped, hne]
  rw [clean, houter cs h, houter cs.reverse fun c hc => h c (List.mem_reverse.mp hc),
    List.reverse_reverse, List.filter_eq_self.mpr hdropped]

/-- What is visible has no blanks at its ends. -/
theorem trimBlanks_of_visible {cs : List Char} (h : ∀ c ∈ cs, IsVisible c) :
    trimBlanks cs = cs := by
  refine trimBlanks_eq_self fun c hc => ?_
  have hall : ∀ k : Fin 128, IsVisible (Char.ofNat k) → isBlank (Char.ofNat k) = false := by
    decide
  exact forall_ascii (P := fun d => IsVisible d → isBlank d = false) hall
    (Nat.lt_succ_of_lt (h c hc).2) (h c hc)

/-- A slash ends the authority. -/
theorem not_isSlash_of_authority {c : Char} (h : endsAuthority true c = false) :
    isSlash c = false := by
  simp only [endsAuthority, Bool.true_and, Bool.or_eq_false_iff] at h
  rw [isSlash, h.1.1.1, h.2]
  rfl

/-- The scheme is read as it was written. -/
theorem splitScheme?_chars (secure : Bool) (rest : List Char) :
    splitScheme? (schemeName secure ++ ("://".toList ++ rest))
      = some (schemeName secure, "//".toList ++ rest) := by
  cases secure <;> rfl

theorem head?_restChars {u : Url} (h : u.Normal) : u.restChars.head? = some '/' := by
  rw [restChars, pathChars_eq h.path_ne_nil]
  rfl

/-- After the host come a colon and the port, or the path at once. -/
theorem head?_portChars {u : Url} (h : u.Normal) :
    (u.portChars ++ u.restChars).head? = some ':'
      ∨ (u.portChars ++ u.restChars).head? = some '/' := by
  rw [portChars]
  cases u.port with
  | none => exact .inr (head?_restChars h)
  | some port => exact .inl rfl

/-- The authority and what follows it are the parts of the URL they were written from. -/
theorem parts_chars {u : Url} (h : u.Normal)
    (hname : ∀ cs, u.host = .name cs → Domain.toAscii? cs = some cs) :
    Parts u.secure (u.userInfoChars ++ ((u.host.chars ++ u.portChars) ++ u.restChars)) u := by
  have hrest := head?_restChars h
  have hafter := head?_portChars h
  have hinfo := readUserInfo_userInfoChars h (fun c => isHostChar_of_mem_hostPort h) hrest
  have hspan := spanHost_chars h.host hafter
  rw [← List.append_assoc] at hspan
  have hparts := Parts.parts hinfo hspan (chars_ne_nil h.host) (readHost_chars h.host hname)
    (readPort_portChars h hrest)
  rw [ofParts_restChars h] at hparts
  exact hparts

/-- The slashes before the authority end where it begins. -/
theorem dropWhile_isSlash_chars {u : Url} (h : u.Normal) :
    ("//".toList ++ (u.userInfoChars ++ ((u.host.chars ++ u.portChars) ++ u.restChars))).dropWhile
      isSlash = u.userInfoChars ++ ((u.host.chars ++ u.portChars) ++ u.restChars) := by
  have hslashes : "//".toList.all isSlash = true := by decide
  refine dropWhile_until (List.all_eq_true.mp hslashes) fun c hc => ?_
  -- the authority is not empty, and does not begin with a slash
  have hauthority : u.userInfoChars ++ (u.host.chars ++ u.portChars) ≠ [] := by
    simp [chars_ne_nil h.host]
  obtain ⟨d, rest, hcons⟩ := List.exists_cons_of_ne_nil hauthority
  have hmem : c ∈ u.userInfoChars ++ (u.host.chars ++ u.portChars) := by
    rw [← List.append_assoc, hcons] at hc
    rw [hcons]
    cases hc
    exact List.mem_cons_self
  refine not_isSlash_of_authority ?_
  rcases List.mem_append.mp hmem with hc | hc
  · exact (facts_of_mem_userInfoChars h hc).2
  · exact (isHostChar_of_mem_hostPort h hc).notEnding

/-- What stands after the slashes of a scheme is read as an authority. -/
theorem read_scheme (secure : Bool) {cs rest : List Char}
    (hvisible : ∀ c ∈ schemeName secure ++ ("://".toList ++ cs), 0x20 < c.toNat)
    (hrest : ("//".toList ++ cs).dropWhile isSlash = rest) :
    read (schemeName secure ++ ("://".toList ++ cs)) = (readAuthority secure rest).map .web := by
  rw [read, clean_eq_self hvisible, splitScheme?_chars]
  dsimp only
  rw [readAfterScheme, hrest]
  cases secure
  · rw [if_pos rfl]
  · rw [if_neg (by decide), if_pos rfl]

/-- The text of what is in normal form is read from its authority on. -/
theorem read_chars_eq {u : Url} (h : u.Normal) :
    read u.chars = (readAuthority u.secure
      (u.userInfoChars ++ ((u.host.chars ++ u.portChars) ++ u.restChars))).map .web := by
  have hvisible : ∀ c ∈ u.chars, 0x20 < c.toNat := fun c hc => (isVisible_of_mem_chars h hc).1
  rw [chars_eq] at hvisible ⊢
  exact read_scheme u.secure hvisible (dropWhile_isSlash_chars h)

/-- What is in normal form is read back from its text, if its host name is its own ASCII form. -/
theorem read_chars {u : Url} (h : u.Normal)
    (hname : ∀ cs, u.host = .name cs → Domain.toAscii? cs = some cs) :
    read u.chars = .ok (.web u) := by
  rw [read_chars_eq h, readAuthority_iff.mpr (parts_chars h hname)]
  rfl

/-- It is not read back at all if its host name has no ASCII form. -/
theorem read_chars_ne_ok {u v : Url} (h : u.Normal) {name : List Char} (hhost : u.host = .name name)
    (hname : Domain.toAscii? name = none) : read u.chars ≠ .ok (.web v) := by
  have hbroken : readHost u.host.chars = .error .invalidName := by
    have hplain : ∀ c ∈ name, Domain.IsPlain c := by
      have hnormal := h.host
      rw [hhost] at hnormal
      exact hnormal.2.1
    obtain ⟨hopen, hmarks⟩ := bare_of_plain hplain
    rw [hhost, Host.chars, readHost_eq hopen hmarks, hname]
    rfl
  rw [read_chars_eq h]
  intro hread
  obtain ⟨url, hauthority⟩ : ∃ url, readAuthority u.secure
      (u.userInfoChars ++ ((u.host.chars ++ u.portChars) ++ u.restChars)) = .ok url := by
    cases hauthority : readAuthority u.secure
        (u.userInfoChars ++ ((u.host.chars ++ u.portChars) ++ u.restChars)) with
    | ok url => exact ⟨url, rfl⟩
    | error problem =>
      rw [hauthority] at hread
      cases hread
  -- The parts are found where they were written, so it is this host that would have been read.
  obtain ⟨hinfo, hspan, -, hhost', -⟩ := readAuthority_iff.mp hauthority
  rw [readUserInfo_userInfoChars h (fun c => isHostChar_of_mem_hostPort h) (head?_restChars h)] at hinfo
  obtain ⟨-, rfl⟩ := Prod.mk.inj (Except.ok.inj hinfo)
  rw [List.append_assoc, spanHost_chars h.host (head?_portChars h)] at hspan
  obtain ⟨rfl, -⟩ := Prod.mk.inj hspan
  rw [hbroken] at hhost'
  cases hhost'

/-- A URL that is parsed was read from the text without blanks around it. -/
theorem read_of_parse {raw : String} {u : Url} (h : parse raw = .ok u) :
    read (trimBlanks raw.toList) = .ok (.web u) := by
  unfold parse at h
  split at h
  · cases h
  · cases h
  · rename_i url hread
    rw [hread, Except.ok.inj h]

theorem trimBlanks_text {u : Url} (h : u.Normal) : trimBlanks u.text.toList = u.chars := by
  rw [text, String.toList_ofList]
  exact trimBlanks_of_visible fun c => isVisible_of_mem_chars h

/-- The text of a URL that was read is read as this URL. -/
theorem parse_text {raw : String} {u : Url} (h : parse raw = .ok u)
    (hname : ∀ name, u.host = .name name → Domain.toAscii? name = some name) :
    parse u.text = .ok u := by
  have hnormal := normal_of_read (read_of_parse h)
  unfold parse
  rw [trimBlanks_text hnormal, read_chars hnormal hname]

end WebhookDelivery.Url
