import CallCenter.SipHandler.Response

/-! # The Body of a Message

    The header loop stops at the empty line or when no CRLF is left, and in
    both cases the offset that it leaves counts as the begin of the body.  In
    a block without an empty line this is the rest behind the last CRLF.

    * Section 1: where a block ends (`BlockEnd`), and the length that it names.
    * Section 2: the body of a parsed message (`Parsed.body_eq`).
    * Section 3: `body_iff` and a message without an empty line. -/

namespace SipHandler

open CFormat CMemory

/-! ## Section 1: The end of a block -/

/-- How the lines of a block end. -/
inductive BlockEnd where
  /-- With an empty line, and what follows it. -/
  | emptyLine (rest : List UInt8)
  /-- Without one; what stands behind the last CRLF. -/
  | noEmptyLine (left : List UInt8)
  deriving DecidableEq, Repr

/-- The end of a block; `cur` is the reversed line so far. -/
def blockEndFrom (cur : List UInt8) : List UInt8 → BlockEnd
  | [] => .noEmptyLine cur.reverse
  | 13 :: 10 :: rest => if cur = [] then .emptyLine rest else blockEndFrom [] rest
  | b :: rest => blockEndFrom (b :: cur) rest

def blockEnd (block : List UInt8) : BlockEnd := blockEndFrom [] block

/-- The lines of a block that end with CRLF, each with what follows it. -/
def roundsFrom (cur : List UInt8) : List UInt8 → List (List UInt8 × List UInt8)
  | [] => []
  | 13 :: 10 :: rest => (cur.reverse, rest) :: roundsFrom [] rest
  | b :: rest => roundsFrom (b :: cur) rest

/-- What `atoi` reads behind the name of the line, if it is `Content-Length`;
    it may read on into `rest`. -/
def lengthRead (round : List UInt8 × List UInt8) : Option Int32 :=
  (valueFor (cstr "Content-Length") round.1).map fun value =>
    atoi (value ++ (crlf ++ round.2 ++ [0]))

/-- The length that the last such line before the empty one gives. -/
def blockLength (block : List UInt8) : Option Int32 :=
  (((roundsFrom [] block).takeWhile (·.1 ≠ [])).filterMap lengthRead).getLast?

/-- A scan that collects bytes, last one first, up to the next CRLF: it gives
    `found` of what it has by then and of the rest, or `ended` without a CRLF. -/
theorem scan_eq {α : Type} (scan : List UInt8 → List UInt8 → α)
    {found : List UInt8 → List UInt8 → α} {ended : List UInt8 → α}
    (hend : ∀ cur, scan cur [] = ended cur)
    (hcrlf : ∀ cur rest, scan cur (13 :: 10 :: rest) = found cur rest)
    (hbyte : ∀ cur b block, (∀ rest, b = 13 → block = 10 :: rest → False) →
      scan cur (b :: block) = scan (b :: cur) block) (cur block : List UInt8) :
    scan cur block =
      match splitOn crlf block with
      | none => ended (block.reverse ++ cur)
      | some (s, t) => found (s.reverse ++ cur) t := by
  induction block generalizing cur with
  | nil => simp [hend, splitOn]
  | cons b block ih =>
    by_cases hpre : crlf.isPrefixOf (b :: block) = true
    · rw [splitOn, if_pos hpre]
      obtain ⟨rfl, t, rfl⟩ := (crlf_isPrefixOf b block).mp hpre
      exact hcrlf cur t
    -- a CR without a LF behind it is a byte like any other
    · rw [splitOn, if_neg hpre]
      have hstep : scan cur (b :: block) = scan (b :: cur) block := by
        apply hbyte
        intro t hb hblock
        exact hpre ((crlf_isPrefixOf b block).mpr ⟨hb, t, hblock⟩)
      rw [hstep, ih]
      cases splitOn crlf block with
      | none => simp
      | some r => simp

theorem blockEnd_eq (block : List UInt8) :
    blockEnd block =
      match splitOn crlf block with
      | none => .noEmptyLine block
      | some (s, t) => if s = [] then .emptyLine t else blockEnd t := by
  have hbyte : ∀ cur b block, (∀ rest, b = 13 → block = 10 :: rest → False) →
      blockEndFrom cur (b :: block) = blockEndFrom (b :: cur) block := by
    intro cur b block hcut
    rw [blockEndFrom]
    exact hcut
  have hscan := scan_eq blockEndFrom (fun _ => rfl) (fun _ _ => rfl) hbyte [] block
  unfold blockEnd
  rw [hscan]
  cases splitOn crlf block with
  | none => simp [blockEndFrom]
  | some r => simp [blockEndFrom]

theorem roundsFrom_eq (block : List UInt8) :
    roundsFrom [] block =
      match splitOn crlf block with
      | none => []
      | some (s, t) => (s, t) :: roundsFrom [] t := by
  have hbyte : ∀ cur b block, (∀ rest, b = 13 → block = 10 :: rest → False) →
      roundsFrom cur (b :: block) = roundsFrom (b :: cur) block := by
    intro cur b block hcut
    rw [roundsFrom]
    exact hcut
  have hscan := scan_eq roundsFrom (fun _ => rfl) (fun _ _ => rfl) hbyte [] block
  rw [hscan]
  cases splitOn crlf block with
  | none => rfl
  | some r => simp [roundsFrom]

theorem splitOn_crlf_self (rest : List UInt8) : splitOn crlf (crlf ++ rest) = some ([], rest) :=
  @splitOn_crlf [] rfl rest

theorem blockLength_none {block : List UInt8} (h : splitOn crlf block = none) :
    blockLength block = none := by
  unfold blockLength
  rw [roundsFrom_eq, h]
  rfl

theorem blockLength_blank (rest : List UInt8) : blockLength (crlf ++ rest) = none := by
  unfold blockLength
  rw [roundsFrom_eq, splitOn_crlf_self]
  simp

theorem blockLength_line {line : List UInt8} (hline : splitOn crlf line = none) (hne : line ≠ [])
    (rest : List UInt8) :
    blockLength (line ++ crlf ++ rest) = (blockLength rest).or (lengthRead (line, rest)) := by
  unfold blockLength
  rw [roundsFrom_eq, splitOn_crlf hline]
  dsimp only
  rw [List.takeWhile_cons_of_pos (by simpa using hne), List.filterMap_cons]
  cases lengthRead (line, rest) with
  | none => simp
  | some n => rw [List.getLast?_cons, Option.or_some]

/-! ## Section 2: Messages -/

variable {block body : List UInt8} {msg m : SipMessage}

/-- What the loop leaves is the end of the block. -/
theorem Parsed.blockEnd {tail : Ptr} (h : Parsed tail block msg m body) :
    blockEnd block = .emptyLine body ∨ blockEnd block = .noEmptyLine body := by
  induction h with
  | blank rest msg =>
    rw [blockEnd_eq, splitOn_crlf_self]
    exact .inl rfl
  | stop msg hnone =>
    rw [blockEnd_eq, hnone]
    exact .inr rfl
  | @line line rest body msg m m' hcrlf hne _ _ ih =>
    rw [blockEnd_eq, splitOn_crlf hcrlf]
    dsimp only
    rw [if_neg (by simpa using hne)]
    exact ih

/-- A recognised text header is not the length. -/
theorem not_length_of_key {name : List UInt8} {k : TextHeader} (h : headerOfKey name = some k) :
    strcaseEq name (cstr "Content-Length") = false := by
  have heq := strcaseEq_iff.mp (headerOfKey_some h)
  rw [Bool.eq_false_iff, ne_eq, strcaseEq_iff, heq, ← strcaseEq_iff]
  cases k <;> decide

/-- A line with a length replaces the one before. -/
theorem LineStored.contentLength {line rest : List UInt8}
    (h : LineStored line (crlf ++ rest ++ [0]) msg m) :
    m.contentLength = (lengthRead (line, rest)).getD msg.contentLength := by
  unfold LineStored at h
  unfold lengthRead valueFor
  cases hfield : headerField line with
  | none =>
    rw [hfield] at h
    rw [h]
    rfl
  | some field =>
    rw [hfield] at h
    cases h with
    | @text k a hkey _ _ => simp [not_length_of_key hkey, SipMessage.setHeader]
    | length _ hlength => simp [hlength]
    | other _ hother => simp [hother]

theorem Parsed.contentLength (h : Parsed [0] block msg m body) :
    m.contentLength = (blockLength block).getD msg.contentLength := by
  induction h with
  | blank rest msg =>
    rw [blockLength_blank]
    rfl
  | stop msg hnone =>
    rw [blockLength_none hnone]
    rfl
  | @line line rest body msg m m' hcrlf hne hline _ ih =>
    rw [blockLength_line hcrlf hne, ih, hline.contentLength]
    cases blockLength rest with
    | none => rfl
    | some n => rfl

/-- A text in a field of `cap` bytes that was zero. -/
def padded (cap : Nat) (text : List UInt8) : List UInt8 :=
  text ++ List.replicate (cap - text.length) 0

theorem bodyResult_bytes (hzero : msg.body = .zero _) (body : List UInt8) :
    (bodyResult body msg).body.bytes = padded sipMaxBodyLen (bodyPart msg.contentLength body) := by
  have hfit := length_bodyPart msg.contentLength body
  unfold bodyResult
  split
  · next hnil =>
    rw [hzero, hnil]
    rfl
  · rw [hzero]
    show bodyPart _ _ ++ 0 :: (List.replicate sipMaxBodyLen 0).drop _ = _
    obtain ⟨n, hn⟩ : ∃ n, sipMaxBodyLen - (bodyPart msg.contentLength body).length = n + 1 :=
      ⟨_, (Nat.succ_pred_eq_of_pos (by omega)).symm⟩
    rw [padded, hn, List.drop_replicate, List.replicate_succ]
    congr 3
    omega

/-- The bytes of the body of an accepted datagram. -/
theorem accepted_body {bytes : List UInt8}
    (hparse : sipParseMessage (bytes ++ [0]) bytes.length .zero = .ok (.ok, m)) :
    ∃ body, (blockEnd (headerBlock bytes) = .emptyLine body ∨
        blockEnd (headerBlock bytes) = .noEmptyLine body) ∧
      m.contentLength = (blockLength (headerBlock bytes)).getD 0 ∧
      m.body.bytes = padded sipMaxBodyLen (bodyPart m.contentLength body) := by
  have hpos : 1 ≤ bytes.length := by
    by_contra hshort
    have hnil : bytes = [] := List.eq_nil_of_length_eq_zero (by omega)
    subst hnil
    cases hparse
  obtain ⟨line, block, start, hdata⟩ := (sipParseMessage_spec hpos .zero).result hparse |>.2 rfl
  have hterm : Terminated (crlf ++ (block ++ [0])) := by simp [Terminated]
  have htail : Terminated [0] := by simp [Terminated]
  have hstart := hdata.startLine
  have hwf : start.Wf := by
    rw [List.append_assoc] at hstart
    exact ((sipParseLine_spec hdata.long hterm wf_zero).result hstart).1
  rw [hdata.bytes_eq, sipParseMessage_line hdata.noCrlf hdata.noNul,
    if_neg (Nat.not_lt.mpr hdata.long), hstart] at hparse
  have hblock : parseBlock (block ++ [0]) block.length start = .ok (.ok, m) := hparse
  -- the headers, the user parts of the addresses, then the body
  unfold parseBlock at hblock
  obtain ⟨⟨parsed, bodyStart, remain⟩, hheaders, hblock⟩ := bind_eq_ok hblock
  obtain ⟨body, rfl, rfl, hparsed⟩ := (sipParseHeaders_spec htail le_rfl start).result hheaders
  obtain ⟨withUsers, husers, hblock⟩ := bind_eq_ok hblock
  obtain ⟨-, honly⟩ := (storeUsers_spec (hparsed.wf hwf)).result husers
  obtain ⟨withBody, hbody, hblock⟩ := bind_eq_ok hblock
  rw [storeBody_eq] at hbody
  obtain rfl : bodyResult body withUsers = m :=
    (Except.ok.inj hbody).trans (Prod.mk.inj (Except.ok.inj hblock)).2
  have hlength : (bodyResult body withUsers).contentLength = withUsers.contentLength := by
    unfold bodyResult
    split <;> rfl
  rw [hdata.bytes_eq, headerBlock_line hdata.noCrlf]
  refine ⟨body, hparsed.blockEnd, ?_, ?_⟩
  · rw [hlength, honly.contentLength, hparsed.contentLength, hdata.onlyLine.contentLength]
    rfl
  · rw [hlength]
    apply bodyResult_bytes
    rw [honly.body, hparsed.frame.2.2, hdata.onlyLine.body]
    rfl

/-! ## Section 3: The body -/

/-- The bytes that belong to the body under a given length. -/
def expectedBody (bytes : List UInt8) (contentLength : Int32) : List UInt8 :=
  match blockEnd (headerBlock bytes) with
  | .emptyLine rest => bodyPart contentLength rest
  | .noEmptyLine _ => []

/-- The field holds these bytes and nothing else. -/
def BodyRight (bytes : List UInt8) (m : SipMessage) : Prop :=
  m.body.bytes = padded sipMaxBodyLen (expectedBody bytes m.contentLength)

/-- The datagram has an empty line, or of the bytes behind its last CRLF those
    that its length covers are all zero, if there are any. -/
def BodyDelimited (bytes : List UInt8) : Prop :=
  match blockEnd (headerBlock bytes) with
  | .emptyLine _ => True
  | .noEmptyLine left => ∀ b ∈ bodyPart ((blockLength (headerBlock bytes)).getD 0) left, b = 0

theorem padded_nil_iff {cap : Nat} {text : List UInt8} (hlen : text.length ≤ cap) :
    padded cap text = padded cap [] ↔ ∀ b ∈ text, b = 0 := by
  have hzeros : padded cap [] = List.replicate text.length 0 ++
      List.replicate (cap - text.length) 0 := by
    rw [← List.replicate_add, Nat.add_sub_cancel' hlen]
    rfl
  rw [hzeros, padded, List.append_left_inj, List.eq_replicate_iff]
  simp

/-- **The body** of an accepted datagram consists of bytes behind its first
    empty line exactly if the datagram is delimited. -/
theorem body_iff {bytes : List UInt8}
    (hparse : sipParseMessage (bytes ++ [0]) bytes.length .zero = .ok (.ok, m)) :
    BodyRight bytes m ↔ BodyDelimited bytes := by
  obtain ⟨body, hend, hlength, hbody⟩ := accepted_body hparse
  unfold BodyRight BodyDelimited expectedBody
  rw [hbody]
  obtain hend | hend := hend
  · rw [hend]
    simp
  · rw [hend]
    dsimp only
    rw [padded_nil_iff (length_bodyPart _ _).le, hlength]

/-- A message with a length of three and the given end. -/
def messageEnding (back : CStr) : CStr :=
  cstr "INVITE sip:2@h SIP/2.0" ++ crlf ++ cstr "Content-Length: 3" ++ crlf ++ back

/-- Whether a datagram is accepted with a body that begins with `front`. -/
def bodyBegins (front bytes : List UInt8) : Bool :=
  match sipParseMessage (bytes ++ [0]) bytes.length .zero with
  | .ok (.ok, m) => m.body.bytes.take front.length == front
  | _ => false

theorem exists_bodyBegins {front bytes : List UInt8} (h : bodyBegins front bytes = true) :
    ∃ m, sipParseMessage (bytes ++ [0]) bytes.length .zero = .ok (.ok, m) ∧
      m.body.bytes.take front.length = front := by
  unfold bodyBegins at h
  split at h
  · next m hparse => exact ⟨m, hparse, eq_of_beq h⟩
  · cases h

/-- The theorem at a message with an empty line. -/
theorem body_iff_delimited :
    ∃ m, sipParseMessage (messageEnding (crlf ++ cstr "abcd") ++ [0])
        (messageEnding (crlf ++ cstr "abcd")).length .zero = .ok (.ok, m) ∧
      BodyRight (messageEnding (crlf ++ cstr "abcd")) m := by
  obtain ⟨m, hparse, -⟩ := @exists_bodyBegins (cstr "abc")
    (messageEnding (crlf ++ cstr "abcd")) (by decide +kernel)
  refine ⟨m, hparse, (body_iff hparse).mpr ?_⟩
  have hend : blockEnd (headerBlock (messageEnding (crlf ++ cstr "abcd"))) =
      .emptyLine (cstr "abcd") := by decide +kernel
  unfold BodyDelimited
  rw [hend]
  trivial

/-- Without an empty line, the rest of the datagram becomes the body. -/
theorem body_without_empty_line :
    ¬ ∀ (bytes : List UInt8) (m : SipMessage), bytes.length < sipMaxRawLen →
      sipParseMessage (bytes ++ [0]) bytes.length .zero = .ok (.ok, m) → BodyRight bytes m := by
  intro h
  obtain ⟨m, hparse, hbody⟩ := @exists_bodyBegins (cstr "abc")
    (messageEnding (cstr "abc")) (by decide +kernel)
  have hright := h _ m (by decide) hparse
  have hend : blockEnd (headerBlock (messageEnding (cstr "abc"))) = .noEmptyLine (cstr "abc") := by
    decide +kernel
  unfold BodyRight expectedBody at hright
  rw [hend] at hright
  dsimp only at hright
  rw [hright] at hbody
  exact absurd hbody (by decide +kernel)

end SipHandler
