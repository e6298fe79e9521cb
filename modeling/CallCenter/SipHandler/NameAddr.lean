import CallCenter.SipHandler.Response

/-! # Numbers of the Parties

    `caller_number`, `callee_number` and `from_display` are cut out of the
    `From` and `To` headers by searching for `sip:`, `@` and `<` in the whole
    value.  A display name may hold the same bytes.

    * Section 1: what `sip_extract_uri_user` computes (`uriUser`).
    * Section 2: the fields of a parsed message (`sipParseMessage_users`).
    * Section 3: printed name-addr values.
    * Section 4: when the user and the display name are the printed ones
      (`name_addr_extracted_iff`). -/

namespace SipHandler

open CFormat CMemory

/-! ## Section 1: The user of a URI -/

/-- What follows the scheme. -/
def uriRest (value : CStr) : CStr :=
  match splitOn (cstr "sip:") value with
  | some r => r.2
  | none =>
    match splitOn (cstr "SIP:") value with
    | some r => r.2
    | none => ((splitOn [58] value).map Prod.snd).getD value

/-- The text before the first `@`, else colon, else semicolon. -/
def uriCut (rest : CStr) : CStr :=
  match splitOn [64] rest, splitOn [58] rest, splitOn [59] rest with
  | some r, _, _ => r.1
  | none, some r, _ => r.1
  | none, none, some r => r.1
  | none, none, none => rest

/-- The user part that `sip_extract_uri_user` finds in a header value. -/
def uriUser (value : CStr) : CStr := uriCut (uriRest value)

theorem uriStart_text {p : Ptr} (hp : Terminated p) :
    Ends (uriStart p) fun q => Terminated q ∧ text q = uriRest (text p) := by
  have hlower : 0 ∉ cstr "sip:" := by decide
  have hupper : 0 ∉ cstr "SIP:" := by decide
  have hlen : (cstr "sip:").length = 4 ∧ (cstr "SIP:").length = 4 := by decide
  unfold uriStart uriRest
  cases hl : splitOn (cstr "sip:") (text p) with
  | some r =>
    obtain ⟨rest, hstr, htext, hrest⟩ := strstr_found hlower hp hl
    rw [hstr]
    refine Ends.of_eq (a := rest) ?_ ⟨hrest, htext⟩
    show Except.ok ((cstr "sip:" ++ rest).drop 4) = _
    rw [← hlen.1, List.drop_left]
  | none =>
    have hmiss : strstr (cstr "sip:") p = .ok none := by rw [strstr_eq hlower hp, hl]; rfl
    rw [hmiss]
    cases hu : splitOn (cstr "SIP:") (text p) with
    | some r =>
      obtain ⟨rest, hstr, htext, hrest⟩ := strstr_found hupper hp hu
      refine Ends.of_eq (a := rest) ?_ ⟨hrest, htext⟩
      show (strstr (cstr "SIP:") p >>= _) = _
      rw [hstr]
      show Except.ok ((cstr "SIP:" ++ rest).drop 4) = _
      rw [← hlen.2, List.drop_left]
    | none =>
      have hmiss : strstr (cstr "SIP:") p = .ok none := by rw [strstr_eq hupper hp, hu]; rfl
      show Ends (strstr (cstr "SIP:") p >>= _) _
      rw [hmiss]
      show Ends (strchr 58 p >>= _) _
      rcases strchr_split (c := 58) (by decide) hp with ⟨s, rest, -, hsplit, hrest, hchr⟩ |
        ⟨hsplit, hchr⟩
      · rw [hchr, hsplit]
        exact Ends.pure ⟨hrest, rfl⟩
      · rw [hchr, hsplit]
        exact Ends.pure ⟨hp, rfl⟩

/-- The cut is made inside the string. -/
theorem uriEnd_text {p : Ptr} (hp : Terminated p) :
    Ends (uriEnd p) fun q => p = uriCut (text p) ++ q := by
  have hcut : ∀ {c : UInt8}, c ≠ 0 →
      (∃ s rest, p = s ++ c :: rest ∧ splitOn [c] (text p) = some (s, text rest) ∧
        strchr c p = .ok (some (c :: rest))) ∨
      splitOn [c] (text p) = none ∧ strchr c p = .ok none := by
    intro c hc
    rcases strchr_split hc hp with ⟨s, rest, heq, hsplit, -, hchr⟩ | hnone
    · exact Or.inl ⟨s, rest, heq, hsplit, hchr⟩
    · exact Or.inr hnone
  have hcolon := hcut (c := 58) (by decide)
  have hsemi := hcut (c := 59) (by decide)
  unfold uriEnd uriCut
  rcases hcut (c := 64) (by decide) with ⟨s, rest, heq, hsplit, hchr⟩ | ⟨hsplit, hchr⟩
  · rw [hchr, hsplit]
    rcases hcolon with ⟨_, _, -, -, hchr'⟩ | ⟨-, hchr'⟩ <;>
      rcases hsemi with ⟨_, _, -, -, hchr''⟩ | ⟨-, hchr''⟩ <;>
      exact Ends.of_eq (by rw [hchr', hchr'']; rfl) heq
  · rw [hchr, hsplit]
    rcases hcolon with ⟨s, rest, heq, hsplit', hchr'⟩ | ⟨hsplit', hchr'⟩
    · rw [hchr', hsplit']
      rcases hsemi with ⟨_, _, -, -, hchr''⟩ | ⟨-, hchr''⟩ <;>
        exact Ends.of_eq (by rw [hchr'']; rfl) heq
    · rw [hchr', hsplit']
      rcases hsemi with ⟨s, rest, heq, hsplit'', hchr''⟩ | ⟨hsplit'', hchr''⟩
      · rw [hchr'', hsplit'']
        exact Ends.pure heq
      · rw [hchr'', hsplit'']
        show Ends (strlen p >>= _) _
        rw [strlen_eq hp]
        exact Ends.pure (List.prefix_iff_eq_append.mp (List.takeWhile_prefix _)).symm

theorem uriCut_begins (rest : CStr) : uriCut rest <+: rest := by
  have hcut : ∀ {c : UInt8} {r}, splitOn [c] rest = some r → r.1 <+: rest := by
    intro c r hr
    exact ⟨c :: r.2, (splitOn_byte_some hr).1.symm⟩
  unfold uriCut
  split
  · next h => exact hcut h
  · next h => exact hcut h
  · next h => exact hcut h
  · exact List.prefix_refl rest

/-- **The user part**: what `uriUser` cuts out, as far as it fits. -/
theorem sipExtractUriUser_text {bufSize : Nat} (hsize : 0 < bufSize) {headerValue : Ptr}
    (hvalue : Terminated headerValue) (userBuf : CharArray bufSize) :
    Ends (sipExtractUriUser headerValue userBuf) fun a =>
      a.cstring = (uriUser (text headerValue)).take (bufSize - 1) := by
  unfold sipExtractUriUser
  apply Ends.bind (CharArray.putNul_zero userBuf hsize)
  rintro userBuf ⟨-, hempty⟩
  apply Ends.bind (uriStart_text hvalue)
  rintro sipStart ⟨hstart, htext⟩
  apply Ends.bind (uriEnd_text hstart)
  intro stop hstop
  rw [htext] at hstop
  have huser : uriCut (uriRest (text headerValue)) = uriUser (text headerValue) := rfl
  rw [huser] at hstop
  have hnul : 0 ∉ uriUser (text headerValue) := by
    intro hmem
    apply notMem_text sipStart
    rw [htext]
    exact (uriCut_begins _).subset hmem
  generalize uriUser (text headerValue) = user at hstop hnul ⊢
  rw [hstop, ptrDiff_append]
  dsimp only
  split
  · next hzero =>
    obtain rfl := List.length_eq_zero_iff.mp (by omega : user.length = 0)
    exact Ends.pure (by rw [hempty, List.take_nil])
  · have hlen : (user ++ stop).length = user.length + stop.length := List.length_append
    have hcopied : (if (bufSize : Int) ≤ user.length then (bufSize : Int) - 1
        else user.length).toNat = min (bufSize - 1) user.length := by
      split <;> omega
    have hcopy := CharArray.copyText_spec userBuf (p := user ++ stop)
      (n := if (bufSize : Int) ≤ user.length then (bufSize : Int) - 1 else user.length)
      (by split <;> omega) (by split <;> omega) (by split <;> omega)
    apply Ends.mono hcopy
    rintro a ⟨-, hkept⟩
    rw [hkept, hcopied, List.take_append_of_le_length (Nat.min_le_right _ _), ← List.take_take,
      List.take_length]
    exact text_eq_self fun hmem => hnul (List.mem_of_mem_take hmem)

/-! ## Section 2: The fields of the message -/

/-- The display name that is copied from a `From` value. -/
def displayText (value : CStr) : CStr :=
  match splitOn [60] value with
  | some (front, _) =>
    if front.head? = some 34 then value.tail.take (displayCopyLen front).toNat else []
  | none => []

/-- The fields that `storeUsers` fills, from the given headers. -/
structure UsersStored (header : TextHeader → CStr) (m : SipMessage) : Prop where
  caller : m.callerNumber.cstring = (uriUser (header .fromHdr)).take (maxExtensionLen - 1)
  callee : m.calleeNumber.cstring = (uriUser (header .toHdr)).take (maxExtensionLen - 1)
  display : m.fromDisplay.cstring = displayText (header .fromHdr)

theorem storeFromDisplay_text {msg : SipMessage} (hwf : msg.Wf)
    (hempty : msg.fromDisplay.cstring = []) :
    Ends (storeFromDisplay msg) fun m => OnlyUsers msg m ∧
      m.fromDisplay.cstring = displayText (msg.headerText .fromHdr) := by
  have hlen := (msg.header .fromHdr).length_eq
  have hfrom := hwf.header .fromHdr
  unfold storeFromDisplay SipMessage.headerText CharArray.cstring
  generalize (msg.header .fromHdr).bytes = from_ at hlen hfrom ⊢
  obtain ⟨first, rest, rfl⟩ : ∃ first rest, from_ = first :: rest := by
    cases from_ with
    | nil => cases hfrom
    | cons first rest => exact ⟨first, rest, rfl⟩
  show Ends (if first = 0 then _ else _) _
  split
  · next hfirst =>
    subst hfirst
    exact Ends.pure ⟨.refl msg, by rw [text_nul]; exact hempty⟩
  · next hfirst =>
    have htext : text (first :: rest) = first :: text rest := text_cons hfirst rest
    rcases strchr_split (c := 60) (by decide) hfrom with ⟨front, back, heq, hsplit, -, hchr⟩ |
      ⟨hsplit, hchr⟩
    · have hhead : first = 34 ↔ front.head? = some 34 := by
        cases front with
        | nil =>
          obtain ⟨rfl, -⟩ := List.cons.inj heq
          decide
        | cons b front =>
          obtain ⟨rfl, -⟩ := List.cons.inj heq
          simp
      have hfront : (first :: rest).take (ptrDiff (60 :: back) (first :: rest)).toNat = front := by
        rw [heq, ptrDiff_append, Int.toNat_natCast, List.take_left]
      have hshort := displayLen_le front
      have hlens := congrArg List.length heq
      rw [List.length_append, List.length_cons] at hlens
      rw [hchr]
      show Ends (if 0 < displayLen ((first :: rest).take
        (ptrDiff (60 :: back) (first :: rest)).toNat) ∧ _ then _ else _) _
      rw [hfront]
      unfold displayText
      rw [hsplit, htext]
      dsimp only
      split
      · next hcond =>
        obtain ⟨-, hquote, hpos, hfits⟩ := hcond
        rw [if_pos (hhead.mp hquote)]
        have hcp : displayCopyLen front ≤ rest.length := by
          unfold displayCopyLen
          omega
        apply Ends.bind (CharArray.copyText_spec _ hpos.le hcp hfits)
        rintro a ⟨-, hcopied⟩
        refine Ends.pure ⟨⟨rfl, rfl, rfl, rfl, rfl⟩, ?_⟩
        show a.cstring = (text rest).take _
        rw [hcopied]
        exact List.take_takeWhile.symm
      · next hcond =>
        refine Ends.pure ⟨.refl msg, ?_⟩
        show msg.fromDisplay.cstring = _
        rw [hempty]
        split
        · next hquote =>
          have hcap : TextHeader.cap .fromHdr = sipMaxHeaderLen := rfl
          rw [hcap, List.length_cons] at hlen
          have hnone : (displayCopyLen front).toNat = 0 := by
            by_contra hpos
            apply hcond
            unfold displayCopyLen at hpos ⊢
            exact ⟨by omega, hhead.mpr hquote, by omega, by omega⟩
          rw [hnone, List.take_zero]
        · rfl
    · rw [hchr]
      unfold displayText
      rw [hsplit]
      exact Ends.pure ⟨.refl msg, hempty⟩

theorem storeUsers_text {msg : SipMessage} (hwf : msg.Wf)
    (hempty : msg.fromDisplay.cstring = []) :
    Ends (storeUsers msg) fun m => UsersStored msg.headerText m ∧ m.header = msg.header := by
  have hfrom := hwf.header .fromHdr
  have hto := hwf.header .toHdr
  have hsize : 0 < maxExtensionLen := by decide
  unfold storeUsers
  apply Ends.bind (sipExtractUriUser_spec (by decide) hfrom _)
  intro fromUri hfromUri
  apply Ends.bind (sipExtractUriUser_spec (by decide) hto _)
  intro toUri htoUri
  have hgiven : ({ msg with fromUri := fromUri, toUri := toUri } : SipMessage).Wf :=
    { hwf with fromUri := hfromUri, toUri := htoUri }
  apply Ends.bind (storeFromDisplay_text hgiven hempty)
  rintro m ⟨honly, hdisplay⟩
  apply Ends.bind (sipExtractUriUser_text hsize hfrom _)
  intro callerNumber hcaller
  apply Ends.bind (sipExtractUriUser_text hsize hto _)
  intro calleeNumber hcallee
  exact Ends.pure ⟨⟨hcaller, hcallee, hdisplay⟩, honly.header⟩

/-- The body is stored beside the users. -/
theorem storeBody_users {bodyStart : Ptr} {remain : Nat} {msg : SipMessage}
    {header : TextHeader → CStr} {m : SipMessage} (hmsg : UsersStored header msg)
    (h : storeBody bodyStart remain msg = .ok m) :
    UsersStored header m ∧ m.header = msg.header := by
  unfold storeBody at h
  split at h
  · dsimp only at h
    split at h
    · obtain ⟨a, -, ha⟩ := bind_eq_ok h
      obtain rfl := Except.ok.inj ha
      exact ⟨⟨hmsg.caller, hmsg.callee, hmsg.display⟩, rfl⟩
    · obtain rfl := Except.ok.inj h
      exact ⟨hmsg, rfl⟩
  · obtain rfl := Except.ok.inj h
    exact ⟨hmsg, rfl⟩

theorem storeRequestUri_fromDisplay {sp1 : Ptr} {sp2 : Option Ptr} {msg m : SipMessage}
    (h : storeRequestUri sp1 sp2 msg = .ok m) : m.fromDisplay = msg.fromDisplay := by
  unfold storeRequestUri at h
  split at h
  · obtain rfl := Except.ok.inj h
    rfl
  · dsimp only at h
    split at h
    · obtain ⟨uri, -, h⟩ := bind_eq_ok h
      obtain rfl := Except.ok.inj h
      rfl
    · obtain rfl := Except.ok.inj h
      rfl

/-- The start line has nothing for the display name. -/
theorem sipParseLine_fromDisplay {line : Ptr} {msg : SipMessage} {r : SipParseError × SipMessage}
    (h : sipParseLine line msg = .ok r) : r.2.fromDisplay = msg.fromDisplay := by
  unfold sipParseLine at h
  obtain ⟨isResponse, -, h⟩ := bind_eq_ok h
  split at h
  · unfold sipParseStatusLine at h
    obtain ⟨sp1, -, h⟩ := bind_eq_ok h
    cases sp1 with
    | none =>
      obtain rfl := Except.ok.inj h
      rfl
    | some sp1 =>
      obtain ⟨code, -, h⟩ := bind_eq_ok h
      obtain rfl := Except.ok.inj h
      rfl
  · unfold sipParseRequestLine at h
    obtain ⟨sp1, -, h⟩ := bind_eq_ok h
    cases sp1 with
    | none =>
      obtain rfl := Except.ok.inj h
      rfl
    | some sp1 =>
      dsimp only at h
      split at h
      · obtain rfl := Except.ok.inj h
        rfl
      · obtain ⟨methodBuf, -, h⟩ := bind_eq_ok h
        obtain ⟨methodStr, -, h⟩ := bind_eq_ok h
        obtain ⟨sp2, -, h⟩ := bind_eq_ok h
        obtain ⟨m, hm, h⟩ := bind_eq_ok h
        obtain rfl := Except.ok.inj h
        exact (storeRequestUri_fromDisplay hm :)

theorem Parsed.fromDisplay {tail : Ptr} {block body : List UInt8} {msg m : SipMessage}
    (h : Parsed tail block msg m body) : m.fromDisplay = msg.fromDisplay := by
  induction h with
  | blank => rfl
  | stop => rfl
  | line _ _ hline _ ih =>
    rw [ih]
    unfold LineStored at hline
    split at hline
    · rw [hline]
    · cases hline with
      | text => rfl
      | length => rfl
      | other => rfl

/-- The block of headers is parsed as a whole. -/
theorem DatagramParsed.parseBlock {bytes line block : List UInt8} {start m msg : SipMessage}
    (h : DatagramParsed bytes line block start m)
    (hparse : sipParseMessage (bytes ++ [0]) bytes.length msg = .ok (.ok, m)) :
    SipHandler.parseBlock (block ++ [0]) block.length start = .ok (.ok, m) := by
  have hline := h.startLine
  rw [h.bytes_eq, sipParseMessage_line h.noCrlf h.noNul, if_neg (by have := h.long; omega),
    hline] at hparse
  exact hparse

theorem nonempty_of_parsed {bytes : List UInt8} {msg m : SipMessage}
    (hparse : sipParseMessage (bytes ++ [0]) bytes.length msg = .ok (.ok, m)) :
    1 ≤ bytes.length := by
  by_contra hzero
  obtain rfl := List.length_eq_zero_iff.mp (by omega : bytes.length = 0)
  cases hparse

/-- **The users of a datagram**: every message that is accepted holds what
    the searches find in its headers. -/
theorem sipParseMessage_users {bytes : List UInt8} {msg m : SipMessage}
    (hparse : sipParseMessage (bytes ++ [0]) bytes.length msg = .ok (.ok, m)) :
    UsersStored m.headerText m := by
  obtain ⟨line, block, start, hdata⟩ :=
    ((sipParseMessage_spec (nonempty_of_parsed hparse) msg).result hparse).2 rfl
  have heol : Terminated (crlf ++ (block ++ [0])) := by simp [Terminated]
  have hline := hdata.startLine
  rw [List.append_assoc] at hline
  obtain ⟨hwf, -⟩ := (sipParseLine_spec hdata.long heol wf_zero).result hline
  have hempty : start.fromDisplay.cstring = [] := by
    rw [sipParseLine_fromDisplay hline]
    exact CharArray.cstring_zero
  -- the headers, the users and the body, one after the other
  obtain ⟨⟨parsed, bodyStart, remain⟩, hheaders, hblock⟩ :=
    bind_eq_ok (hdata.parseBlock hparse)
  obtain ⟨users, husers, hblock⟩ := bind_eq_ok hblock
  obtain ⟨m', hbody, hblock⟩ := bind_eq_ok hblock
  obtain rfl : m' = m := (Prod.mk.inj (Except.ok.inj hblock)).2
  have htail : Terminated [0] := by simp [Terminated]
  obtain ⟨body, -, -, hparsed⟩ := (sipParseHeaders_spec htail le_rfl start).result hheaders
  have hempty' : parsed.fromDisplay.cstring = [] := by
    rw [hparsed.fromDisplay]
    exact hempty
  obtain ⟨hstored, hheader⟩ := (storeUsers_text (hparsed.wf hwf) hempty').result husers
  obtain ⟨hstored', hheader'⟩ := storeBody_users hstored hbody
  have hsame : m'.headerText = parsed.headerText := by
    funext k
    unfold SipMessage.headerText
    rw [hheader', hheader]
  rw [hsame]
  exact hstored'

/-! ## Section 3: Printed values -/

/-- A byte of a user: a letter, a digit or `+`. -/
def isUserByte (b : UInt8) : Bool :=
  isDigit b || (65 ≤ b && b ≤ 90) || (97 ≤ b && b ≤ 122) || b == 43

/-- `["display" SP] <sip:user@host[:port][;param]*> [;param]*` -/
structure NameAddr where
  display : Option CStr
  user : CStr
  host : CStr
  port : Option CStr
  uriParams : List CStr
  headerParams : List CStr

namespace NameAddr

/-- What follows `@`. -/
def back (a : NameAddr) : CStr :=
  a.host ++ (a.port.map (58 :: ·)).getD [] ++ a.uriParams.flatMap (59 :: ·) ++
    62 :: a.headerParams.flatMap (59 :: ·)

/-- The address from its scheme on. -/
def address (a : NameAddr) : CStr := cstr "sip:" ++ (a.user ++ 64 :: a.back)

/-- The value of the header. -/
def value (a : NameAddr) : CStr :=
  match a.display with
  | some display => 34 :: (display ++ 34 :: 32 :: 60 :: a.address)
  | none => 60 :: a.address

/-- A value of the form that fits into the field.  Of the parts behind the
    user only the bytes that would end the line are excluded. -/
structure WellFormed (a : NameAddr) : Prop where
  display : ∀ d, a.display = some d → ∀ b ∈ d, b ≠ 34 ∧ b ≠ 92 ∧ b ≠ 13 ∧ b ≠ 10 ∧ b ≠ 0
  user : ∀ b ∈ a.user, isUserByte b = true
  userPos : 1 ≤ a.user.length
  userFits : a.user.length ≤ 15
  back : ∀ b ∈ a.back, b ≠ 13 ∧ b ≠ 10 ∧ b ≠ 0
  fits : a.value.length ≤ 255

/-- The search for `sip:` and `@` ends at the user: the display name has no
    `sip:`, or behind its first one stands the user, with an `@` or up to the
    length of the field. -/
def UserReached (a : NameAddr) : Prop :=
  ∀ d, a.display = some d → ∀ front after, splitOn (cstr "sip:") d = some (front, after) →
    a.user ++ [64] <+: after ∨ a.user.length = 15 ∧ a.user <+: after

/-- The display name has no `<`. -/
def DisplayPlain (a : NameAddr) : Prop := ∀ d, a.display = some d → 60 ∉ d

variable {a : NameAddr}

theorem WellFormed.user_notMem (ha : a.WellFormed) {b : UInt8} (hb : isUserByte b = false) :
    b ∉ a.user := by
  intro hmem
  rw [ha.user b hmem] at hb
  cases hb

theorem WellFormed.display_notMem (ha : a.WellFormed) {d : CStr} (hd : a.display = some d) :
    34 ∉ d ∧ 0 ∉ d :=
  ⟨fun h => (ha.display d hd 34 h).1 rfl, fun h => (ha.display d hd 0 h).2.2.2.2 rfl⟩

theorem WellFormed.noNul (ha : a.WellFormed) : 0 ∉ a.value := by
  have huser : 0 ∉ a.user := ha.user_notMem (by decide)
  have hback : 0 ∉ a.back := fun h => (ha.back 0 h).2.2 rfl
  have hscheme : 0 ∉ cstr "sip:" := by decide
  unfold value
  cases hd : a.display with
  | none => simp [address, huser, hback, hscheme]
  | some d => simp [address, huser, hback, hscheme, (ha.display_notMem hd).2]

/-- A value that fits is stored as it is. -/
theorem WellFormed.stored (ha : a.WellFormed) : storedText sipMaxHeaderLen a.value = a.value := by
  have htake : a.value.take (sipMaxHeaderLen - 1) = a.value := List.take_of_length_le ha.fits
  rw [storedText, htake, text_eq_self ha.noNul]

/-- The scheme of the address is found where no display name has one. -/
theorem splitOn_address : splitOn (cstr "sip:") a.address = some ([], a.user ++ 64 :: a.back) := by
  have hfound : splitOn (cstr "sip:") (cstr "sip:") = some ([], []) := by decide
  exact splitOn_append hfound _

/-- What follows the first `sip:` of the value. -/
theorem uriRest_value (a : NameAddr) :
    uriRest a.value =
      match a.display.bind (splitOn (cstr "sip:")) with
      | some r => r.2 ++ 34 :: 32 :: 60 :: a.address
      | none => a.user ++ 64 :: a.back := by
  have hne : cstr "sip:" ≠ [] := by decide
  have hskip : ∀ {c : UInt8}, c ∉ cstr "sip:" → ∀ s, splitOn (cstr "sip:") (c :: s) =
      (splitOn (cstr "sip:") s).map fun r => (c :: r.1, r.2) := by
    intro c hc s
    exact splitOn_skip (s := []) hne hc rfl s
  unfold uriRest value
  cases hd : a.display with
  | none =>
    dsimp only [Option.bind_none]
    rw [hskip (by decide), splitOn_address]
    rfl
  | some d =>
    dsimp only [Option.bind_some]
    rw [hskip (by decide)]
    cases hsplit : splitOn (cstr "sip:") d with
    | none =>
      rw [splitOn_skip hne (by decide) hsplit, hskip (by decide), hskip (by decide),
        splitOn_address]
      rfl
    | some r =>
      rw [splitOn_append hsplit]
      rfl

/-- The first `@` and the size of the field decide what is kept. -/
theorem take_front_iff {n : Nat} {user front : List UInt8} {c : UInt8} (huser : c ∉ user)
    (hfits : user.length ≤ n) (hfront : c ∉ front) (back : List UInt8) :
    front.take n = user ↔
      user ++ [c] <+: front ++ c :: back ∨ user.length = n ∧ user <+: front ++ c :: back := by
  constructor
  · rintro rfl
    rcases Nat.lt_or_ge n front.length with hgt | hle
    · right
      refine ⟨by rw [List.length_take]; omega, ?_⟩
      exact (List.take_prefix n front).trans (List.prefix_append _ _)
    · left
      rw [List.take_of_length_le hle]
      exact ⟨back, by simp⟩
  · rintro (⟨rest, hrest⟩ | ⟨rfl, hpre⟩)
    · have hsame : splitOn [c] (user ++ c :: rest) = splitOn [c] (front ++ c :: back) := by
        rw [← hrest, List.append_assoc]
        rfl
      rw [splitOn_byte huser, splitOn_byte hfront] at hsame
      obtain ⟨rfl, -⟩ := Prod.mk.inj (Option.some.inj hsame)
      exact List.take_of_length_le hfits
    · exact (List.prefix_iff_eq_take.mp ((prefix_stops_iff huser).mp hpre)).symm

/-- **The number** that is kept is the printed user exactly when the search
    reaches it. -/
theorem WellFormed.user_iff (ha : a.WellFormed) :
    (uriUser a.value).take (maxExtensionLen - 1) = a.user ↔ a.UserReached := by
  have hat : 64 ∉ a.user := ha.user_notMem (by decide)
  have hquote : 34 ∉ a.user ++ [64] := by simp [ha.user_notMem (b := 34) (by decide)]
  have hfits : a.user.length ≤ maxExtensionLen - 1 := ha.userFits
  unfold uriUser UserReached
  rw [uriRest_value]
  cases hfound : a.display.bind (splitOn (cstr "sip:")) with
  | none =>
    have hcut : uriCut (a.user ++ 64 :: a.back) = a.user := by
      unfold uriCut
      rw [splitOn_byte hat]
    dsimp only
    rw [hcut, List.take_of_length_le hfits]
    refine iff_of_true rfl ?_
    intro d hd front after hsplit
    rw [hd, Option.bind_some, hsplit] at hfound
    cases hfound
  | some r =>
    obtain ⟨front, after⟩ := r
    obtain ⟨d, hd, hsplit⟩ := Option.bind_eq_some_iff.mp hfound
    have hmem : (64 : UInt8) ∈ after ++ 34 :: 32 :: 60 :: a.address := by simp [address]
    obtain ⟨kept, rest, heq, hkept⟩ := exists_cut hmem
    have hcut : uriCut (after ++ 34 :: 32 :: 60 :: a.address) = kept := by
      unfold uriCut
      rw [heq, splitOn_byte hkept]
    dsimp only
    rw [hcut, take_front_iff hat hfits hkept rest, ← heq, prefix_stops_iff hquote,
      prefix_stops_iff (ha.user_notMem (by decide))]
    constructor
    · intro h d' hd' front' after' hsplit'
      obtain rfl := Option.some.inj (hd.symm.trans hd')
      obtain ⟨rfl, rfl⟩ := Prod.mk.inj (Option.some.inj (hsplit.symm.trans hsplit'))
      exact h
    · intro h
      exact h d hd front after hsplit

/-- **The display name** is copied exactly when no `<` stands in it. -/
theorem displayText_iff {d : CStr} (hd : a.display = some d) (hne : d ≠ []) :
    displayText a.value = d ↔ 60 ∉ d := by
  have hvalue : a.value = 34 :: (d ++ 34 :: 32 :: 60 :: a.address) := by rw [value, hd]
  unfold displayText
  constructor
  · intro h hmem
    obtain ⟨front, back, rfl, hfront⟩ := exists_cut hmem
    have hcut : splitOn [60] a.value =
        some (34 :: front, back ++ 34 :: 32 :: 60 :: a.address) := by
      have hlist : a.value = (34 :: front) ++ 60 :: (back ++ 34 :: 32 :: 60 :: a.address) := by
        rw [hvalue]
        simp
      rw [hlist, splitOn_byte (by simpa using hfront)]
    rw [hcut] at h
    dsimp only at h
    rw [if_pos (by rfl)] at h
    -- what is copied is shorter than what stands before the `<`
    have hshort : displayLen (34 :: front) ≤ front.length + 1 := displayLen_le _
    have hlen := congrArg List.length h
    rw [List.length_take, List.length_append, List.length_cons] at hlen
    unfold displayCopyLen at hlen
    omega
  · intro hnot
    have hcut : splitOn [60] a.value = some (34 :: d ++ [34] ++ [32], a.address) := by
      have hlist : a.value = (34 :: d ++ [34] ++ [32]) ++ 60 :: a.address := by
        rw [hvalue]
        simp
      rw [hlist, splitOn_byte (by simp [hnot])]
    have hcp : (displayCopyLen (34 :: d ++ [34] ++ [32])).toNat = d.length := by
      unfold displayCopyLen displayLen
      rw [List.rdropWhile_concat_pos _ _ _ (by decide),
        List.rdropWhile_concat_neg _ _ _ (by decide), List.length_append, List.length_cons,
        List.length_singleton]
      omega
    rw [hcut]
    dsimp only
    rw [if_pos (by rfl), hcp, hvalue, List.tail_cons, List.take_left]

end NameAddr

/-! ## Section 4: Extraction -/

/-- The value of the header in a datagram; the last one counts. -/
def headerValue (k : TextHeader) (bytes : List UInt8) : Option CStr :=
  (headerValues k.key (headerBlock bytes)).getLast?

theorem headerText_of_value {bytes : List UInt8} {msg m : SipMessage} {k : TextHeader}
    (hparse : sipParseMessage (bytes ++ [0]) bytes.length msg = .ok (.ok, m)) {v : CStr}
    (hvalue : headerValue k bytes = some v) : m.headerText k = storedText k.cap v := by
  obtain ⟨line, block, start, hdata⟩ :=
    ((sipParseMessage_spec (nonempty_of_parsed hparse) msg).result hparse).2 rfl
  have hlast : (headerValues k.key (headerBlock bytes)).getLast? = some v := hvalue
  rw [hdata.headerText k, hlast]
  rfl

/-- The caller and the display name are those of the `From` value. -/
def FromExtracted (a : NameAddr) (m : SipMessage) : Prop :=
  m.callerNumber.cstring = a.user ∧
    ∀ d, a.display = some d → d ≠ [] → m.fromDisplay.cstring = d

/-- The callee is that of the `To` value. -/
def ToExtracted (a : NameAddr) (m : SipMessage) : Prop := m.calleeNumber.cstring = a.user

/-- **Extraction**: the user of a name-addr is found exactly when the search
    for `sip:` and `@` reaches it, and the display name exactly when it has
    no `<`. -/
theorem name_addr_extracted_iff {bytes : List UInt8} {msg m : SipMessage}
    (hparse : sipParseMessage (bytes ++ [0]) bytes.length msg = .ok (.ok, m)) :
    (∀ a : NameAddr, a.WellFormed → headerValue .fromHdr bytes = some a.value →
      (FromExtracted a m ↔ a.UserReached ∧ a.DisplayPlain)) ∧
    (∀ a : NameAddr, a.WellFormed → headerValue .toHdr bytes = some a.value →
      (ToExtracted a m ↔ a.UserReached)) := by
  have husers := sipParseMessage_users hparse
  constructor
  · intro a ha hvalue
    have htext : m.headerText .fromHdr = a.value := by
      rw [headerText_of_value hparse hvalue]
      exact ha.stored
    unfold FromExtracted
    rw [husers.caller, husers.display, htext, ha.user_iff]
    apply and_congr_right
    intro _
    constructor
    · intro h d hd
      by_cases hne : d = []
      · simp [hne]
      · exact (NameAddr.displayText_iff hd hne).mp (h d hd hne)
    · intro h d hd hne
      exact (NameAddr.displayText_iff hd hne).mpr (h d hd)
  · intro a ha hvalue
    have htext : m.headerText .toHdr = a.value := by
      rw [headerText_of_value hparse hvalue]
      exact ha.stored
    unfold ToExtracted
    rw [husers.callee, htext, ha.user_iff]

/-- A request between the two parties. -/
def requestBetween (caller callee : NameAddr) : CStr :=
  cstr "INVITE sip:2@h SIP/2.0" ++ crlf ++ headerLine (cstr "From") caller.value ++
    headerLine (cstr "To") callee.value ++ headerLine (cstr "Call-ID") (cstr "c") ++
    headerLine (cstr "CSeq") (cstr "1 INVITE") ++ crlf

/-- A party with a display name. -/
def namedParty (display user : String) : NameAddr where
  display := some (cstr display)
  user := cstr user
  host := cstr "h"
  port := some (cstr "5060")
  uriParams := [cstr "user=phone"]
  headerParams := [cstr "tag=1"]

theorem wellFormed_namedParty {display user : String}
    (hdisplay : ∀ b ∈ cstr display, b ≠ 34 ∧ b ≠ 92 ∧ b ≠ 13 ∧ b ≠ 10 ∧ b ≠ 0)
    (huser : ∀ b ∈ cstr user, isUserByte b = true) (hpos : 1 ≤ (cstr user).length)
    (hlen : (cstr user).length ≤ 15) (hfits : (namedParty display user).value.length ≤ 255) :
    (namedParty display user).WellFormed where
  display := by
    intro d hd
    obtain rfl := Option.some.inj hd
    exact hdisplay
  user := huser
  userPos := hpos
  userFits := hlen
  back := by
    show ∀ b ∈ (namedParty "" "").back, _
    decide +kernel
  fits := hfits

/-- Bob calls. -/
def bobRequest : CStr := requestBetween (namedParty "Bob" "1001") (namedParty "B" "1002")

/-- The theorem at a call from Bob. -/
theorem name_addr_extracted_bob :
    ∃ m, sipParseMessage (bobRequest ++ [0]) bobRequest.length .zero = .ok (.ok, m) ∧
      m.callerNumber.cstring = cstr "1001" ∧ m.fromDisplay.cstring = cstr "Bob" ∧
      m.calleeNumber.cstring = cstr "1002" := by
  obtain ⟨m, hm⟩ := exists_accepted (b := bobRequest) (by decide +kernel)
  obtain ⟨hfrom, hto⟩ := name_addr_extracted_iff hm.parsed
  have hplain : (namedParty "Bob" "1001").UserReached ∧ (namedParty "Bob" "1001").DisplayPlain := by
    constructor
    · intro d hd front after hsplit
      obtain rfl := Option.some.inj hd
      rw [show splitOn (cstr "sip:") (cstr "Bob") = none by decide] at hsplit
      cases hsplit
    · intro d hd
      obtain rfl := Option.some.inj hd
      decide
  have hcallee : (namedParty "B" "1002").UserReached := by
    intro d hd front after hsplit
    obtain rfl := Option.some.inj hd
    rw [show splitOn (cstr "sip:") (cstr "B") = none by decide] at hsplit
    cases hsplit
  obtain ⟨hcaller, hdisplay⟩ := (hfrom (namedParty "Bob" "1001")
    (wellFormed_namedParty (by decide +kernel) (by decide +kernel) (by decide) (by decide)
      (by decide +kernel))
    (by decide +kernel)).mpr hplain
  exact ⟨m, hm.parsed, hcaller, hdisplay _ rfl (by decide), (hto (namedParty "B" "1002")
    (wellFormed_namedParty (by decide +kernel) (by decide +kernel) (by decide) (by decide)
      (by decide +kernel))
    (by decide +kernel)).mpr hcallee⟩

/-- A caller chooses a display name that begins like a URI. -/
def forgedRequest : CStr := requestBetween (namedParty "sip:x" "1001") (namedParty "B" "1002")

/-- The number of a call is not the user of its URI. -/
theorem name_addr_forged : ¬ ∀ (bytes : List UInt8) (msg m : SipMessage) (a : NameAddr),
    sipParseMessage (bytes ++ [0]) bytes.length msg = .ok (.ok, m) → a.WellFormed →
    (headerValue .fromHdr bytes = some a.value → FromExtracted a m) ∧
      (headerValue .toHdr bytes = some a.value → ToExtracted a m) := by
  intro hall
  obtain ⟨m, hm⟩ := exists_accepted (b := forgedRequest) (by decide +kernel)
  have hwf : (namedParty "sip:x" "1001").WellFormed :=
    wellFormed_namedParty (by decide +kernel) (by decide +kernel) (by decide) (by decide)
      (by decide +kernel)
  have hvalue : headerValue .fromHdr forgedRequest = some (namedParty "sip:x" "1001").value := by
    decide +kernel
  obtain ⟨hcaller, -⟩ := (hall forgedRequest .zero m _ hm.parsed hwf).1 hvalue
  have hfound := (sipParseMessage_users hm.parsed).caller
  rw [headerText_of_value hm.parsed hvalue, hcaller] at hfound
  exact absurd hfound (by decide +kernel)

end SipHandler
