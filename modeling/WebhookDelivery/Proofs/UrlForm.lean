import WebhookDelivery.Proofs.AddressText
import WebhookDelivery.Proofs.PercentText

/-!
# The normal form of URLs

A URL can be spelled in many ways, but whatever it was read from, it is held in one form: nothing is
left to encode, the dots of the path are resolved, an address is a number, and the usual port is not
mentioned.

* `Url.Normal` — the form.
* `Url.Parts` — how a URL comes of its parts.
* `Url.normal_of_read` — what is read is in normal form.
-/

namespace WebhookDelivery

-- ---------------------------------------------------------------------------
-- The normal form
-- ---------------------------------------------------------------------------

/-- A host as it is held: an address is in range, and a name cannot be taken for one. -/
def Host.Normal : Host → Prop
  | name cs => cs ≠ [] ∧ (∀ c ∈ cs, Domain.IsPlain c) ∧ Address.endsInNumber cs = false
  | v4 a => a < 4294967296
  | v6 gs => Address.IsGroups gs

namespace Url

/-- A segment of a path as it is held: nothing is left to encode, cut or resolve. -/
structure IsSegment (segment : List Char) : Prop where
  encoded : ∀ c ∈ segment, Percent.inPath c = false
  uncut : ∀ c ∈ segment, isSlash c = false
  notUp : isUp segment = false
  notHere : isHere segment = false

/-- A URL as it is held. -/
structure Normal (u : Url) : Prop where
  user : ∀ c ∈ u.user, Percent.inUserInfo c = false
  password : ∀ c ∈ u.password, Percent.inUserInfo c = false
  host : u.host.Normal
  port : ∀ port, u.port = some port → port ≤ 65535 ∧ port ≠ usualPort u.secure
  path_ne_nil : u.path ≠ []
  path : ∀ segment ∈ u.path, IsSegment segment
  query : ∀ query, u.query = some query → ∀ c ∈ query, Percent.inQuery c = false
  fragment : ∀ fragment, u.fragment = some fragment → ∀ c ∈ fragment, Percent.inFragment c = false

-- ---------------------------------------------------------------------------
-- The parts that are read
-- ---------------------------------------------------------------------------

/-- The URL of an authority that has been read and what follows it. -/
def ofParts (secure : Bool) (info : List Char × List Char) (host : Host) (port : Option Nat)
    (rest : List Char) : Url :=
  { secure, user := info.1, password := info.2, host, port
    path := readPath []
      (if (beforeQuery rest).head?.any isSlash then (beforeQuery rest).tail else beforeQuery rest)
    query := queryOf rest, fragment := fragmentOf rest }

/-- How a URL comes of its parts. -/
inductive Parts (secure : Bool) (cs : List Char) : Url → Prop where
  | parts {info : List Char × List Char} {afterInfo hostText afterHost rest : List Char}
    {host : Host} {port : Option Nat} (hinfo : readUserInfo true cs = .ok (info, afterInfo))
    (hspan : spanHost true false afterInfo = (hostText, afterHost)) (htext : hostText ≠ [])
    (hhost : readHost hostText = .ok host)
    (hport : readPort (some (usualPort secure)) afterHost = .ok (port, rest)) :
    Parts secure cs (ofParts secure info host port rest)

/-- An authority is read part by part. -/
theorem readAuthority_iff {secure : Bool} {cs : List Char} {u : Url} :
    readAuthority secure cs = .ok u ↔ Parts secure cs u := by
  rw [readAuthority]
  simp only [bind, Except.bind, pure, Except.pure]
  constructor
  · intro h
    -- each part is read in turn, and the first that fails is the error
    split at h
    · cases h
    · rename_i r hinfo
      split at h
      · cases h
      · rename_i htext
        rw [List.isEmpty_iff] at htext
        split at h
        · cases h
        · rename_i host hhost
          split at h
          · cases h
          · rename_i q hport
            rw [← Except.ok.inj h]
            exact .parts hinfo rfl htext hhost hport
  · rintro ⟨hinfo, hspan, htext, hhost, hport⟩
    have hfull : ¬ List.isEmpty _ = true := fun hempty => htext (List.isEmpty_iff.mp hempty)
    simp only [hinfo, hspan, if_neg hfull, hhost, hport]
    rfl

-- ---------------------------------------------------------------------------
-- What is read is in normal form
-- ---------------------------------------------------------------------------

/-- User name and password are read encoded. -/
theorem not_inUserInfo_of_read {special : Bool} {cs rest : List Char}
    {info : List Char × List Char} (h : readUserInfo special cs = .ok (info, rest)) :
    (∀ c ∈ info.1, Percent.inUserInfo c = false) ∧ ∀ c ∈ info.2, Percent.inUserInfo c = false := by
  rw [readUserInfo] at h
  split at h
  · cases h
    simp
  · split at h
    · cases h
    · cases h
      simp
  · cases h
    have hescape : ∀ d, Percent.IsEscape d → Percent.inUserInfo d = false :=
      fun d hd => hd.free.userInfo
    exact ⟨fun c => Percent.not_encoded_of_mem_encode hescape,
      fun c => Percent.not_encoded_of_mem_encode hescape⟩

/-- A host that is read between brackets is in range. -/
theorem normal_of_readBracketed {cs : List Char} {host : Host} (h : readBracketed cs = .ok host) :
    host.Normal := by
  rw [readBracketed] at h
  split at h
  · split at h
    · rename_i groups hgroups
      cases h
      exact Address.isGroups_of_readV6? hgroups
    · cases h
  · cases h

/-- A host that is read is as it is held. -/
theorem normal_of_readHost {cs : List Char} {host : Host} (h : readHost cs = .ok host) :
    host.Normal := by
  rw [readHost] at h
  -- between brackets, or a name, which may be an IPv4 address
  split at h
  · exact normal_of_readBracketed h
  · dsimp only at h
    split at h
    · cases h
    · cases h
    · rename_i name hne hname
      obtain ⟨decoded, -, hascii⟩ := Option.bind_eq_some_iff.mp hname
      split at h
      · split at h
        · rename_i address haddress
          cases h
          exact Address.lt_of_readV4? haddress
        · cases h
      · rename_i hlast
        cases h
        exact ⟨fun hnil => hne (by rw [hnil]), fun c => Domain.isPlain_of_mem_toAscii? hascii,
          Bool.eq_false_iff.mpr hlast⟩

/-- A port that is read is in range, and not the usual one. -/
theorem port_of_readPort {usual : Option Nat} {cs rest : List Char} {port : Option Nat}
    (h : readPort usual cs = .ok (port, rest)) :
    ∀ p, port = some p → p ≤ 65535 ∧ some p ≠ usual := by
  rw [readPort.eq_def] at h
  split at h
  · dsimp only at h
    split at h
    · cases h
    · rename_i hrange
      split at h
      · cases h
      · cases h
        intro p hp
        split at hp
        · cases hp
        · rename_i hunusual
          cases hp
          rw [Bool.or_eq_true, not_or, decide_eq_true_eq] at hunusual
          exact ⟨by omega, hunusual.2⟩
  · cases h
    rintro p ⟨⟩

theorem isSegment_nil : IsSegment [] where
  encoded _ hc := absurd hc List.not_mem_nil
  uncut _ hc := absurd hc List.not_mem_nil
  notUp := by decide
  notHere := by decide

/-- To leave a segment adds none. -/
theorem mem_of_mem_leaveSegment {above : List (List Char)} {segment : List Char}
    (h : segment ∈ leaveSegment above) : segment ∈ above := by
  cases above with
  | nil => exact h
  | cons first above =>
    rw [leaveSegment] at h
    split at h
    · exact h
    · exact List.mem_cons_of_mem _ h

/-- A path is complete with its last segment. -/
theorem isSegment_of_last {above : List (List Char)} {last : List Char}
    (habove : ∀ s ∈ above, IsSegment s) (hlast : IsSegment last) :
    above.reverse ++ [last] ≠ [] ∧ ∀ s ∈ above.reverse ++ [last], IsSegment s := by
  refine ⟨by simp, fun s hs => ?_⟩
  rcases List.mem_append.mp hs with hs | hs
  · exact habove s (List.mem_reverse.mp hs)
  · rw [List.mem_singleton.mp hs]
    exact hlast

/-- A path whose dots are resolved has segments, and none of them stands for another. -/
theorem isSegment_of_resolveDots {above segments : List (List Char)} (hsegments : segments ≠ [])
    (habove : ∀ s ∈ above, IsSegment s)
    (hrest : ∀ s ∈ segments, ∀ c ∈ s, Percent.inPath c = false ∧ isSlash c = false) :
    resolveDots above segments ≠ [] ∧ ∀ s ∈ resolveDots above segments, IsSegment s := by
  -- on the segments to come; `above` are those kept so far
  induction segments generalizing above with
  | nil => exact absurd rfl hsegments
  | cons segment rest ih =>
    have hleft : ∀ s ∈ leaveSegment above, IsSegment s :=
      fun s hs => habove s (mem_of_mem_leaveSegment hs)
    obtain ⟨hsegment, hrest⟩ := List.forall_mem_cons.mp hrest
    have hkept : isUp segment = false → isHere segment = false → IsSegment segment :=
      fun hup hhere => ⟨fun c hc => (hsegment c hc).1, fun c hc => (hsegment c hc).2, hup, hhere⟩
    -- after a last segment that resolves to nothing an empty one is left
    cases rest with
    | nil =>
      rw [resolveDots]
      split
      · exact isSegment_of_last hleft isSegment_nil
      · rename_i hup
        split
        · exact isSegment_of_last habove isSegment_nil
        · rename_i hhere
          refine isSegment_of_last habove ?_
          exact hkept (Bool.eq_false_iff.mpr hup) (Bool.eq_false_iff.mpr hhere)
    | cons next rest =>
      rw [resolveDots.eq_3 _ _ _ (by simp)]
      split
      · exact ih (by simp) hleft hrest
      · rename_i hup
        split
        · exact ih (by simp) habove hrest
        · rename_i hhere
          refine ih (by simp) (List.forall_mem_cons.mpr ⟨?_, habove⟩) hrest
          exact hkept (Bool.eq_false_iff.mpr hup) (Bool.eq_false_iff.mpr hhere)

/-- A path that is read has a segment at least, each as it is held. -/
theorem isSegment_of_readPath (cs : List Char) :
    readPath [] cs ≠ [] ∧ ∀ segment ∈ readPath [] cs, IsSegment segment := by
  refine isSegment_of_resolveDots ?_ (fun s hs => absurd hs List.not_mem_nil) fun s hs c hc => ?_
  · rw [splitSegments_eq]
    simp [cutAt_ne_nil]
  · obtain ⟨part, hpart, rfl⟩ := List.mem_map.mp hs
    rw [splitSegments_eq] at hpart
    rcases Percent.mem_encode hc with ⟨hmem, hraw⟩ | hescape
    · exact ⟨hraw, (mem_of_mem_cutAt hpart hmem).2⟩
    · exact ⟨hescape.free.path, hescape.free.slash⟩

/-- A query is read encoded. -/
theorem not_inQuery_of_queryOf {cs query : List Char} (h : queryOf cs = some query) :
    ∀ c ∈ query, Percent.inQuery c = false := by
  rw [queryOf] at h
  split at h
  · cases h
    exact fun c => Percent.not_encoded_of_mem_encode fun d hd => hd.free.query
  · cases h

/-- A fragment is read encoded. -/
theorem not_inFragment_of_fragmentOf {cs fragment : List Char} (h : fragmentOf cs = some fragment) :
    ∀ c ∈ fragment, Percent.inFragment c = false := by
  rw [fragmentOf] at h
  split at h
  · cases h
    exact fun c => Percent.not_encoded_of_mem_encode fun d hd => hd.free.fragment
  · cases h

/-- A URL that comes of its parts is as it is held. -/
theorem Parts.normal {secure : Bool} {cs : List Char} {u : Url} (h : Parts secure cs u) :
    u.Normal := by
  obtain ⟨hinfo, -, -, hhost, hport⟩ := h
  obtain ⟨huser, hpassword⟩ := not_inUserInfo_of_read hinfo
  have hpath := isSegment_of_readPath
  refine ⟨huser, hpassword, normal_of_readHost hhost, fun p hp => ?_, (hpath _).1, (hpath _).2,
    fun _ => not_inQuery_of_queryOf, fun _ => not_inFragment_of_fragmentOf⟩
  obtain ⟨hrange, hunusual⟩ := port_of_readPort hport p hp
  exact ⟨hrange, fun heq => hunusual (congrArg some heq)⟩

/-- A URL of the Web comes of the parts of its authority. -/
theorem parts_of_read {cs : List Char} {u : Url} (h : read cs = .ok (.web u)) :
    ∃ secure rest, Parts secure rest u := by
  rw [read] at h
  split at h
  · cases h
  · rename_i scheme rest hscheme
    have hauthority : ∀ secure, (readAuthority secure (rest.dropWhile isSlash)).map Reading.web
        = .ok (.web u) → ∃ secure rest, Parts secure rest u := by
      intro secure h
      cases hread : readAuthority secure (rest.dropWhile isSlash) with
      | error problem =>
        rw [hread] at h
        cases h
      | ok url =>
        rw [hread] at h
        cases h
        exact ⟨secure, _, readAuthority_iff.mp hread⟩
    -- a scheme that is not of the Web gives no URL
    have hother : ∀ {r : Except Problem Unit}, r.map (fun _ => Reading.other scheme)
        = .ok (.web u) → ∃ secure rest, Parts secure rest u := by
      intro r h
      cases r <;> cases h
    rw [readAfterScheme] at h
    split at h
    · exact hauthority false h
    · split at h
      · exact hauthority true h
      · split at h
        · exact hother h
        · split at h
          · exact hother h
          · exact hother h

/-- What is read is in normal form. -/
theorem normal_of_read {cs : List Char} {u : Url} (h : read cs = .ok (.web u)) : u.Normal := by
  obtain ⟨secure, rest, hparts⟩ := parts_of_read h
  exact hparts.normal

end Url

end WebhookDelivery
