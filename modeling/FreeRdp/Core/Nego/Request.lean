import FreeRdp.Core.Nego.Termination
import Mathlib.Data.List.Infix
import Mathlib.Data.List.TakeWhile

/-!
# Reading a connection request

The server side of `core/nego.c`: an optional routing token or cookie that ends in CR LF, and an
optional `RDP_NEG_REQ`.
-/

namespace FreeRdp

open WStream

/-- `"Cookie: mstshash="`. -/
def cookiePrefix : List UInt8 :=
  [0x43, 0x6F, 0x6F, 0x6B, 0x69, 0x65, 0x3A, 0x20, 0x6D, 0x73, 0x74, 0x73, 0x68, 0x61, 0x73, 0x68,
    0x3D]

/-- CR LF. -/
def crLf : List UInt8 := [0x0D, 0x0A]

/-- `nego_set_routing_token`. -/
def negoSetRoutingToken (nego : Nego) (token : List UInt8) : Bool × Nego :=
  if token.length = 0 then (false, nego) else (true, { nego with routingToken := some token })

/-- `nego_set_cookie`, with the string that starts the bytes. -/
def negoSetCookie (nego : Nego) (str : List UInt8) : Bool × Nego :=
  (true, { nego with cookie := some (str.takeWhile (· ≠ 0)) })

/-- `strnlen`. -/
def strnlen (str : List UInt8) (maxLen : Nat) : Nat := ((str.take maxLen).takeWhile (· ≠ 0)).length

/-- The loop that looks for CR LF: the stream behind it. There are as many rounds as bytes. -/
def scanCrLf : Nat → WStream → Option WStream
  | 0, _ => none
  | n + 1, s =>
    if s.remainingLength ≥ 2 then
      let (crlf, t) := s.readUInt16
      if crlf = 0x0A0D then some t else scanCrLf n (t.rewind 1)
    else none

/-- What `nego_read_request_token_or_cookie` does with the stream behind CR LF: the line is made a
string, and set as the token or the cookie. -/
def negoSetTokenOrCookie (isToken : Bool) (nego : Nego) (s t : WStream) : Bool × Nego × WStream :=
  let t := t.rewind 2
  let len := t.pos - s.pos
  let t := t.write (bytesUInt16 0)
  let str := t.buffer.drop s.pos
  let (result, nego) :=
    if strnlen str len = len then
      if isToken then negoSetRoutingToken nego (str.take len) else negoSetCookie nego str
    else (false, nego)
  (result, nego, if result then t else t.setPosition s.pos)

/-- `nego_read_request_token_or_cookie`. The source compares 17 bytes even where only 15 or 16 are
there; what lies behind the end counts as different here. -/
def negoReadRequestTokenOrCookie (nego : Nego) (s : WStream) : Bool × Nego × WStream :=
  if s.remainingLength < 15 then (true, nego, s)
  else
    let isToken := decide (s.unread.take 17 ≠ cookiePrefix)
    if !isToken ∧ s.remainingLength < 19 then (true, nego, s)
    else
      let start := if isToken then s else s.seek 17
      match scanCrLf start.remainingLength start with
      | none => (false, nego, s)
      | some t => negoSetTokenOrCookie isToken nego s t

/-- `nego_process_negotiation_request`. -/
def negoProcessNegotiationRequest (nego : Nego) (s : WStream) : Bool × Nego × WStream :=
  if s.remainingLength < 7 then (false, nego, s)
  else
    let (_flags, s) := s.readUInt8
    let (_length, s) := s.readUInt16
    let (requestedProtocols, s) := s.readUInt32
    (true, { nego with requestedProtocols := requestedProtocols, state := .final }, s)

/-- What `nego_read_request` does behind the token or cookie. -/
def negoReadNegData (nego : Nego) (s : WStream) : Bool × Nego :=
  if s.remainingLength ≥ 8 then
    let (type, s) := s.readUInt8
    if type ≠ TYPE_RDP_NEG_REQ then (false, nego)
    else
      match negoProcessNegotiationRequest nego s with
      | (false, nego, _) => (false, nego)
      | (true, nego, s) => (tpktEnsureStreamConsumed s, nego)
  else (tpktEnsureStreamConsumed s, nego)

/-- `nego_read_request`. -/
def negoReadRequest (nego : Nego) (s : WStream) : Bool × Nego :=
  match tpktReadHeader s with
  | none => (false, nego)
  | some (length, s) =>
    match tpduReadConnectionRequest s length with
    | none => (false, nego)
    | some (li, s) =>
      if li ≠ s.remainingLength + 6 then (false, nego)
      else
        match negoReadRequestTokenOrCookie nego s with
        | (false, nego, _) => (false, nego)
        | (true, nego, s) => negoReadNegData nego s

/-! ### Looking for the end of the line -/

lemma scanCrLf_of_crLf {s : WStream} {rest : List UInt8} {n : Nat} (h : s.unread = crLf ++ rest) :
    scanCrLf (n + 1) s = some (s.seek 2) := by
  have hremaining : 2 ≤ s.remainingLength := by
    rw [remainingLength_eq, h]
    simp [crLf]
  have hread : s.readUInt16 = (0x0A0D, s.seek 2) := readUInt16_of_unread h
  rw [scanCrLf, if_pos hremaining, hread]
  rfl

lemma scanCrLf_of_ne {s : WStream} {n : Nat} {b b' : UInt8} {rest : List UInt8}
    (h : s.unread = b :: b' :: rest) (hne : ¬(b = 0x0D ∧ b' = 0x0A)) :
    scanCrLf (n + 1) s = scanCrLf n (s.seek 1) := by
  have hremaining : 2 ≤ s.remainingLength := by
    rw [remainingLength_eq, h]
    simp
  rw [scanCrLf, if_pos hremaining, readUInt16_of_unread h]
  dsimp only
  rw [if_neg]
  · rfl
  · intro heq
    have hb := b.toNat_lt
    have hb' := b'.toNat_lt
    refine hne ⟨UInt8.toNat_inj.mp ?_, UInt8.toNat_inj.mp ?_⟩
    · show b.toNat = 0x0D
      omega
    · show b'.toNat = 0x0A
      omega

/-- A line without CR LF inside, and CR LF behind it: that is where the loop ends. -/
lemma scanCrLf_line {line rest : List UInt8} (hline : ¬crLf <:+: line) (n : Nat) :
    ∀ s : WStream, s.unread = line ++ (crLf ++ rest) →
      scanCrLf (line.length + n + 1) s = some (s.seek (line.length + 2)) := by
  induction line with
  | nil =>
    intro s hs
    exact scanCrLf_of_crLf hs
  | cons b line ih =>
    intro s hs
    have hrest : ¬crLf <:+: line := fun h => hline (h.trans (List.suffix_cons b line).isInfix)
    have hnext : (s.seek 1).unread = line ++ (crLf ++ rest) := unread_seek_one hs
    have hstep : scanCrLf (line.length + n + 1 + 1) s =
        scanCrLf (line.length + n + 1) (s.seek 1) := by
      cases line with
      | nil => exact scanCrLf_of_ne hs (by simp)
      | cons b' line =>
        refine scanCrLf_of_ne hs ?_
        rintro ⟨rfl, rfl⟩
        exact hline ⟨[], line, rfl⟩
    have hlength : (b :: line).length + n + 1 = line.length + n + 1 + 1 := by
      rw [List.length_cons]
      omega
    rw [hlength, hstep, ih hrest _ hnext, seek_seek, List.length_cons]
    congr 2
    omega

/-- Nothing is lost by starting behind bytes without CR. -/
lemma scanCrLf_skip {front : List UInt8} (hfront : (0x0D : UInt8) ∉ front) (n : Nat) :
    ∀ (s : WStream) {b : UInt8} {rest : List UInt8}, s.unread = front ++ b :: rest →
      scanCrLf (front.length + n) s = scanCrLf n (s.seek front.length) := by
  induction front with
  | nil =>
    intro s b rest _
    rw [List.length_nil, Nat.zero_add]
    rfl
  | cons c front ih =>
    intro s b rest hs
    obtain ⟨hc, hfront⟩ : 0x0D ≠ c ∧ 0x0D ∉ front := by simpa using hfront
    have hnext : (s.seek 1).unread = front ++ b :: rest := unread_seek_one hs
    have hlength : (c :: front).length + n = front.length + n + 1 := by
      rw [List.length_cons]
      omega
    have hstep : scanCrLf (front.length + n + 1) s = scanCrLf (front.length + n) (s.seek 1) := by
      cases front with
      | nil => exact scanCrLf_of_ne hs fun h => hc h.1.symm
      | cons c' front => exact scanCrLf_of_ne hs fun h => hc h.1.symm
    rw [hlength, hstep, ih hfront _ hnext, seek_seek, List.length_cons, Nat.add_comm 1]

/-- The first CR LF of a line that has one. -/
lemma exists_first_crLf {line : List UInt8} (h : crLf <:+: line) :
    ∃ first rest, line = first ++ (crLf ++ rest) ∧ ¬crLf <:+: first := by
  induction line with
  | nil => exact absurd h (by decide)
  | cons b line ih =>
    by_cases hfront : crLf <+: b :: line
    · obtain ⟨rest, hrest⟩ := hfront
      exact ⟨[], rest, hrest.symm, by decide⟩
    · have htail : crLf <:+: line := by
        rw [List.infix_cons_iff] at h
        exact h.resolve_left hfront
      obtain ⟨first, rest, rfl, hfirst⟩ := ih htail
      refine ⟨b :: first, rest, rfl, ?_⟩
      rw [List.infix_cons_iff]
      rintro (hstart | hinside)
      · exact hfront (hstart.trans ⟨crLf ++ rest, rfl⟩)
      · exact hfirst hinside

/-- For a cookie the loop starts behind the prefix, which makes no difference. -/
lemma scanCrLf_cookie {s : WStream} (hcookie : s.unread.take 17 = cookiePrefix)
    (hremaining : 19 ≤ s.remainingLength) :
    scanCrLf (s.seek 17).remainingLength (s.seek 17) = scanCrLf s.remainingLength s := by
  obtain ⟨b, rest, hrest⟩ : ∃ b rest, s.unread.drop 17 = b :: rest := by
    refine List.exists_cons_of_length_pos ?_
    rw [List.length_drop, ← remainingLength_eq]
    omega
  have hs : s.unread = cookiePrefix ++ b :: rest := by
    rw [← hcookie, ← hrest, List.take_append_drop]
  have hskip := scanCrLf_skip (by decide) (s.seek 17).remainingLength s hs
  have hlength : cookiePrefix.length + (s.seek 17).remainingLength = s.remainingLength := by
    rw [remainingLength_seek]
    show 17 + _ = _
    omega
  rw [hlength] at hskip
  exact hskip.symm

/-! ### The token or cookie -/

section Line

variable {s : WStream} {line rest : List UInt8} (nego : Nego)

/-- A line that starts like a cookie is long enough for one. -/
lemma remainingLength_of_cookie (hs : s.unread = line ++ (crLf ++ rest))
    (hcookie : s.unread.take 17 = cookiePrefix) : 19 ≤ s.remainingLength := by
  have hline : 17 ≤ line.length := by
    by_contra hshort
    obtain ⟨k, hk⟩ : ∃ k, 17 - line.length = k + 1 := ⟨16 - line.length, by omega⟩
    have hmem : (0x0D : UInt8) ∈ cookiePrefix := by
      rw [← hcookie, hs, List.take_append, hk]
      simp [crLf]
    exact absurd hmem (by decide)
  rw [remainingLength_of_unread hs, List.length_append]
  show 19 ≤ _ + (2 + _)
  omega

/-- Reading stops at the first CR LF. -/
lemma negoReadRequestTokenOrCookie_line (hs : s.unread = line ++ (crLf ++ rest))
    (hline : ¬crLf <:+: line) (hremaining : 15 ≤ s.remainingLength) :
    negoReadRequestTokenOrCookie nego s =
      negoSetTokenOrCookie (decide (s.unread.take 17 ≠ cookiePrefix)) nego s
        (s.seek (line.length + 2)) := by
  have hscan : scanCrLf s.remainingLength s = some (s.seek (line.length + 2)) := by
    have hlength : s.remainingLength = line.length + (rest.length + 1) + 1 := by
      rw [remainingLength_of_unread hs, List.length_append]
      show _ + (2 + _) = _
      omega
    rw [hlength]
    exact scanCrLf_line hline _ s hs
  unfold negoReadRequestTokenOrCookie
  rw [if_neg (by omega)]
  by_cases hcookie : s.unread.take 17 = cookiePrefix
  · have hlong := remainingLength_of_cookie hs hcookie
    simp only [ne_eq, hcookie, not_true_eq_false, decide_false, Bool.not_false, true_and,
      if_neg (by omega : ¬s.remainingLength < 19), Bool.false_eq_true, if_false,
      scanCrLf_cookie hcookie hlong, hscan]
  · simp only [ne_eq, hcookie, not_false_eq_true, decide_true, Bool.not_true, Bool.false_eq_true,
      false_and, if_false, if_true, hscan]

lemma strnlen_line (hline : (0 : UInt8) ∉ line) :
    strnlen (line ++ (bytesUInt16 0 ++ rest)) line.length = line.length := by
  rw [strnlen, List.take_left, List.takeWhile_eq_self_iff.mpr]
  intro b hb
  refine decide_eq_true ?_
  rintro rfl
  exact hline hb

lemma strnlen_line_lt (hline : (0 : UInt8) ∈ line) :
    strnlen (line ++ (bytesUInt16 0 ++ rest)) line.length ≠ line.length := by
  rw [strnlen, List.take_left]
  intro hlength
  have heq := (List.takeWhile_prefix _).eq_of_length hlength
  have hzero := List.takeWhile_eq_self_iff.mp heq 0 hline
  exact absurd hzero (by decide)

/-- The stream with the end of the line overwritten. -/
lemma write_line (hs : s.unread = line ++ (crLf ++ rest)) :
    ((s.seek (line.length + 2)).rewind 2).pos - s.pos = line.length ∧
      (((s.seek (line.length + 2)).rewind 2).write (bytesUInt16 0)).pos =
        s.pos + (line.length + 2) ∧
      (((s.seek (line.length + 2)).rewind 2).write (bytesUInt16 0)).buffer.drop s.pos =
        line ++ (bytesUInt16 0 ++ rest) ∧
      (((s.seek (line.length + 2)).rewind 2).write (bytesUInt16 0)).unread = rest := by
  have hrewind : (s.seek (line.length + 2)).rewind 2 = s.seek line.length := by
    simp only [rewind, seek]
    congr 1
  have hpos : s.pos ≤ s.buffer.length := by
    have hlength := congrArg List.length hs
    simp only [unread, List.length_drop, List.length_append, crLf, List.length_cons,
      List.length_nil] at hlength
    omega
  obtain ⟨front, hfront, hbuffer⟩ : ∃ front : List UInt8, front.length = s.pos ∧
      s.buffer = front ++ (line ++ (crLf ++ rest)) := by
    refine ⟨s.buffer.take s.pos, by simp [hpos], ?_⟩
    rw [← hs, unread, List.take_append_drop]
  have hwritten : (s.seek line.length).write (bytesUInt16 0) =
      ⟨front ++ (line ++ (bytesUInt16 0 ++ rest)), s.pos + line.length + 2⟩ := by
    have htake : s.buffer.take (s.pos + line.length) = front ++ line := by
      rw [hbuffer, ← List.append_assoc, ← hfront, ← List.length_append, List.take_left]
    have hdrop : s.buffer.drop (s.pos + line.length + 2) = rest := by
      rw [hbuffer, ← List.append_assoc, ← List.append_assoc, ← hfront]
      exact List.drop_left' (by simp [crLf, Nat.add_assoc])
    simp only [write, seek, htake]
    show WStream.mk (_ ++ s.buffer.drop (s.pos + line.length + 2)) _ = _
    rw [hdrop]
    simp [bytesUInt16]
  rw [hrewind, hwritten]
  refine ⟨by simp, by simp [Nat.add_assoc], ?_, ?_⟩
  · rw [← hfront, List.drop_left]
  · rw [unread, ← List.append_assoc, ← List.append_assoc, ← hfront]
    exact List.drop_left' (by simp [bytesUInt16, Nat.add_assoc])

/-- A line with a NUL byte in it is refused. -/
lemma negoSetTokenOrCookie_refuses {isToken : Bool} (hs : s.unread = line ++ (crLf ++ rest))
    (hline : (0 : UInt8) ∈ line) :
    (negoSetTokenOrCookie isToken nego s (s.seek (line.length + 2))).1 = false := by
  obtain ⟨hlen, -, hstr, -⟩ := write_line hs
  unfold negoSetTokenOrCookie
  dsimp only
  rw [hlen, hstr, if_neg (strnlen_line_lt hline)]

/-- Any other line is accepted and skipped, CR LF included. -/
lemma negoSetTokenOrCookie_accepts (isToken : Bool) (hs : s.unread = line ++ (crLf ++ rest))
    (hline : (0 : UInt8) ∉ line) (hne : line ≠ []) :
    ∃ nego' t, negoSetTokenOrCookie isToken nego s (s.seek (line.length + 2)) = (true, nego', t) ∧
      nego'.requestedProtocols = nego.requestedProtocols ∧ t.unread = rest := by
  obtain ⟨hlen, -, hstr, hunread⟩ := write_line hs
  unfold negoSetTokenOrCookie
  dsimp only
  rw [hlen, hstr, if_pos (strnlen_line hline)]
  cases isToken with
  | false => exact ⟨_, _, rfl, rfl, hunread⟩
  | true =>
    have hpos : line.length ≠ 0 := fun h => hne (List.length_eq_zero_iff.mp h)
    simp only [if_true, List.take_left, negoSetRoutingToken, if_neg hpos]
    exact ⟨_, _, rfl, rfl, hunread⟩

/-- What is accepted is skipped up to the first CR LF. -/
lemma negoSetTokenOrCookie_pos (isToken : Bool) (hs : s.unread = line ++ (crLf ++ rest))
    (haccepted : (negoSetTokenOrCookie isToken nego s (s.seek (line.length + 2))).1 = true) :
    (negoSetTokenOrCookie isToken nego s (s.seek (line.length + 2))).2.2.pos =
      s.pos + (line.length + 2) := by
  obtain ⟨-, hpos, -, -⟩ := write_line hs
  unfold negoSetTokenOrCookie at haccepted ⊢
  dsimp only at haccepted ⊢
  rw [if_pos haccepted]
  exact hpos

end Line

/-! ### The whole request -/

variable {client server nego : Nego}

lemma length_negoRequestData_le (client : Nego) : (negoRequestData client).length ≤ 8 := by
  unfold negoRequestData
  split
  · exact le_of_eq rfl
  · exact Nat.zero_le 8

/-- A token or cookie ends in CR LF. -/
lemma negoRequestToken_eq_line (h : negoRequestToken client ≠ []) :
    ∃ line, negoRequestToken client = line ++ crLf := by
  unfold negoRequestToken at h ⊢
  cases htoken : client.routingToken with
  | some token =>
    dsimp only
    split
    · rename_i hterminated
      exact ⟨token.take (token.length - 2), by rw [crLf, ← hterminated.2, List.take_append_drop]⟩
    · exact ⟨token, rfl⟩
  | none =>
    cases hcookie : client.cookie with
    | some cookie => exact ⟨_, rfl⟩
    | none =>
      rw [htoken, hcookie] at h
      exact absurd rfl h

/-- What is behind the token is read back. A server that sees no `RDP_NEG_REQ` keeps the protocols
it has, and a client leaves it out only if it requests none. -/
lemma negoReadNegData_of_written {s : WStream} (hs : s.unread = negoRequestData client)
    (hclient : client.requestedProtocols < 2 ^ 32)
    (hnego : nego.requestedProtocols = PROTOCOL_RDP) :
    (negoReadNegData nego s).1 = true ∧
      (negoReadNegData nego s).2.requestedProtocols = client.requestedProtocols := by
  unfold negoRequestData at hs
  split at hs
  · have hremaining : s.remainingLength = 8 := by
      rw [remainingLength_eq, hs]
      rfl
    obtain ⟨flags, hflags⟩ : ∃ flags, flags = UInt8.ofNat
      (if client.restrictedAdminModeRequired then RESTRICTED_ADMIN_MODE_REQUIRED else 0) := ⟨_, rfl⟩
    have hbytes : s.unread = 1 :: flags :: (bytesUInt16 8 ++
        (bytesUInt32 client.requestedProtocols ++ [])) := by
      rw [hs, hflags]
      rfl
    have htype := readUInt8_of_unread hbytes
    have hread := readUInt8_of_unread (unread_seek_one hbytes)
    have hlength : ((s.seek 1).seek 1).readUInt16 = (8, ((s.seek 1).seek 1).seek 2) :=
      readUInt16_bytes (unread_seek_one (unread_seek_one hbytes)) (by decide)
    have hprotocols : (((s.seek 1).seek 1).seek 2).readUInt32 =
        (client.requestedProtocols, (((s.seek 1).seek 1).seek 2).seek 4) :=
      readUInt32_bytes (unread_seek_append (unread_seek_one (unread_seek_one hbytes)) rfl) hclient
    have hconsumed : tpktEnsureStreamConsumed ((((s.seek 1).seek 1).seek 2).seek 4) = true := by
      simp only [tpktEnsureStreamConsumed, remainingLength_seek, hremaining]
      rfl
    unfold negoReadNegData
    rw [if_pos (by omega), htype]
    dsimp only
    rw [if_neg (by decide), negoProcessNegotiationRequest, remainingLength_seek,
      if_neg (by omega), hread]
    dsimp only
    rw [hlength]
    dsimp only
    rw [hprotocols]
    exact ⟨hconsumed, rfl⟩
  · rename_i hnone
    have hremaining : s.remainingLength = 0 := by
      rw [remainingLength_eq, hs]
      rfl
    unfold negoReadNegData
    rw [if_neg (by omega), tpktEnsureStreamConsumed, hremaining, hnego]
    refine ⟨rfl, ?_⟩
    show 0 = client.requestedProtocols
    have hzero : ¬0 < client.requestedProtocols := fun h => hnone (Or.inl h)
    omega

/-- The server accepts the request of a client, gets its protocols, and goes exactly over its
token or cookie. -/
def NegoRecovers (client server : Nego) (pdu : List UInt8) : Prop :=
  (negoReadRequest server (ofBytes pdu)).1 = true ∧
    (negoReadRequest server (ofBytes pdu)).2.requestedProtocols = client.requestedProtocols ∧
    (negoReadRequestTokenOrCookie server
      ((ofBytes pdu).seek TPDU_CONNECTION_REQUEST_LENGTH)).2.2.pos =
        TPDU_CONNECTION_REQUEST_LENGTH + (negoRequestToken client).length

/-- There is nothing in front of the `RDP_NEG_REQ`, or a line without NUL and without another CR LF,
which together with it has 15 bytes. -/
def NegoTokenReadable (client : Nego) : Prop :=
  negoRequestToken client = [] ∨
    15 ≤ (negoRequestToken client ++ negoRequestData client).length ∧
      ∃ line, negoRequestToken client = line ++ crLf ∧ (0 : UInt8) ∉ line ∧ ¬crLf <:+: line

section Recovers

variable {pdu : List UInt8}

/-- What `nego_read_request` does with the body of a request. -/
def negoReadBody (server : Nego) (s : WStream) : Bool × Nego :=
  match negoReadRequestTokenOrCookie server s with
  | (false, nego, _) => (false, nego)
  | (true, nego, s) => negoReadNegData nego s

lemma negoReadRequest_of_written {body : List UInt8}
    (hpdu : pdu = tpktWriteHeader (11 + body.length) ++
      tpduWriteConnectionRequest (11 + body.length - 5) ++ body) (hli : 6 + body.length < 2 ^ 8) :
    negoReadRequest server (ofBytes pdu) = negoReadBody server ((ofBytes pdu).seek 11) ∧
      ((ofBytes pdu).seek 11).unread = body := by
  have hs : (ofBytes pdu).unread = _ := (unread_ofBytes pdu).trans hpdu
  obtain ⟨hheader, htpdu, hbody⟩ := tpduReadConnectionRequest_of_written hs hli
  refine ⟨?_, hbody⟩
  unfold negoReadRequest
  rw [hheader]
  dsimp only
  rw [htpdu]
  dsimp only
  rw [remainingLength_eq, hbody, if_neg (by omega)]
  rfl

lemma negoReadBody_of_readable {s : WStream}
    (hs : s.unread = negoRequestToken client ++ negoRequestData client)
    (hclient : client.requestedProtocols < 2 ^ 32)
    (hserver : server.requestedProtocols = PROTOCOL_RDP) (h : NegoTokenReadable client) :
    (negoReadBody server s).1 = true ∧
      (negoReadBody server s).2.requestedProtocols = client.requestedProtocols ∧
      (negoReadRequestTokenOrCookie server s).2.2.pos =
        s.pos + (negoRequestToken client).length := by
  obtain hnone | ⟨hlong, line, htoken, hzero, hline⟩ := h
  · rw [hnone, List.nil_append] at hs
    have hshort : s.remainingLength < 15 := by
      have hlength := length_negoRequestData_le client
      rw [remainingLength_eq, hs]
      omega
    have hread : negoReadRequestTokenOrCookie server s = (true, server, s) := by
      rw [negoReadRequestTokenOrCookie, if_pos hshort]
    obtain ⟨haccepted, hprotocols⟩ := negoReadNegData_of_written hs hclient hserver
    rw [negoReadBody, hread, hnone]
    exact ⟨haccepted, hprotocols, rfl⟩
  · have hremaining : 15 ≤ s.remainingLength := by rwa [remainingLength_eq, hs]
    rw [htoken, List.append_assoc] at hs
    have hne : line ≠ [] := by
      rintro rfl
      have hlength := length_negoRequestData_le client
      rw [htoken, List.length_append] at hlong
      change 15 ≤ 2 + _ at hlong
      omega
    have hread := negoReadRequestTokenOrCookie_line server hs hline hremaining
    obtain ⟨nego, t, haccept, hsame, hrest⟩ := negoSetTokenOrCookie_accepts server
      (decide (s.unread.take 17 ≠ cookiePrefix)) hs hzero hne
    have hpos := negoSetTokenOrCookie_pos server
      (decide (s.unread.take 17 ≠ cookiePrefix)) hs (by rw [haccept])
    obtain ⟨haccepted, hprotocols⟩ :=
      negoReadNegData_of_written hrest hclient (hsame.trans hserver)
    rw [negoReadBody, hread, haccept]
    rw [haccept] at hpos
    refine ⟨haccepted, hprotocols, hpos.trans ?_⟩
    rw [htoken, List.length_append]
    rfl

lemma negoReadBody_accepts {s : WStream} (h : (negoReadBody server s).1 = true) :
    (negoReadRequestTokenOrCookie server s).1 = true := by
  unfold negoReadBody at h
  split at h
  · exact absurd h Bool.false_ne_true
  · rename_i heq
    rw [heq]

lemma readable_of_negoReadBody {s : WStream}
    (hs : s.unread = negoRequestToken client ++ negoRequestData client)
    (haccepted : (negoReadBody server s).1 = true)
    (hpos : (negoReadRequestTokenOrCookie server s).2.2.pos =
      s.pos + (negoRequestToken client).length) : NegoTokenReadable client := by
  by_cases hnone : negoRequestToken client = []
  · exact .inl hnone
  obtain ⟨line, htoken⟩ := negoRequestToken_eq_line hnone
  have haccept := negoReadBody_accepts haccepted
  have hlong : 15 ≤ s.remainingLength := by
    -- otherwise nothing is skipped
    by_contra hshort
    rw [negoReadRequestTokenOrCookie, if_pos (by omega)] at hpos
    dsimp only at hpos
    exact hnone (List.length_eq_zero_iff.mp (by omega))
  refine .inr ⟨by rwa [← hs, ← remainingLength_eq], line, htoken, ?_⟩
  rw [htoken, List.append_assoc] at hs
  have hline : ¬crLf <:+: line := by
    -- the first CR LF is the one that is found
    intro hinside
    obtain ⟨first, rest, rfl, hfirst⟩ := exists_first_crLf hinside
    rw [List.append_assoc, List.append_assoc] at hs
    rw [negoReadRequestTokenOrCookie_line server hs hfirst hlong] at haccept hpos
    rw [negoSetTokenOrCookie_pos server _ hs haccept, htoken] at hpos
    simp only [List.length_append, crLf, List.length_cons, List.length_nil] at hpos
    omega
  refine ⟨?_, hline⟩
  intro hzero
  rw [negoReadRequestTokenOrCookie_line server hs hline hlong,
    negoSetTokenOrCookie_refuses server hs hzero] at haccept
  exact absurd haccept (by decide)

end Recovers

/-- The request of a client, with a length indicator that holds its length, is read back by a new
server if and only if its token or cookie is readable. -/
theorem negoReadRequest_recovers_iff (a : TransportAnswers) (client server : Nego)
    (hclient : client.requestedProtocols < 2 ^ 32)
    (hserver : server.requestedProtocols = PROTOCOL_RDP)
    (hli : TPDU_CONNECTION_REQUEST_LENGTH +
      (negoRequestToken client ++ negoRequestData client).length - 5 < 2 ^ 8) :
    ∃ pdu, (negoSendNegotiationRequest a client).2.sent =
        client.sent ++ [⟨client.requestedProtocols, pdu⟩] ∧
      (NegoRecovers client server pdu ↔ NegoTokenReadable client) := by
  have hlength : 6 + (negoRequestToken client ++ negoRequestData client).length < 2 ^ 8 := by
    unfold TPDU_CONNECTION_REQUEST_LENGTH at hli
    omega
  let body := negoRequestToken client ++ negoRequestData client
  refine ⟨tpktWriteHeader (11 + body.length) ++ tpduWriteConnectionRequest (11 + body.length - 5) ++
    body, ?_, ?_⟩
  · unfold negoSendNegotiationRequest TPDU_CONNECTION_REQUEST_LENGTH
    dsimp only
    rw [if_neg (by omega)]
  · obtain ⟨hread, hbody⟩ := @negoReadRequest_of_written server _ body rfl hlength
    unfold NegoRecovers
    rw [hread]
    constructor
    · rintro ⟨haccepted, -, hpos⟩
      exact readable_of_negoReadBody hbody haccepted hpos
    · exact negoReadBody_of_readable hbody hclient hserver

/-- A client that asks for TLS, with a routing token. -/
def negoWithToken (token : List UInt8) : Nego :=
  { negoNew [PROTOCOL_SSL] with
    routingToken := some token
    requestedProtocols := PROTOCOL_SSL }

/-- `"msts=127.0.0.1"` is read back. -/
theorem negoReadRequest_recovers_token :
    ∃ pdu, (negoSendNegotiationRequest (.replying []) (negoWithToken
        [0x6D, 0x73, 0x74, 0x73, 0x3D, 0x31, 0x32, 0x37, 0x2E, 0x30, 0x2E, 0x30, 0x2E, 0x31])).2.sent
        = [⟨PROTOCOL_SSL, pdu⟩] ∧
      NegoRecovers (negoWithToken
        [0x6D, 0x73, 0x74, 0x73, 0x3D, 0x31, 0x32, 0x37, 0x2E, 0x30, 0x2E, 0x30, 0x2E, 0x31])
        (negoNew [PROTOCOL_SSL]) pdu := by
  obtain ⟨pdu, hsent, hiff⟩ := negoReadRequest_recovers_iff (.replying []) (negoWithToken
    [0x6D, 0x73, 0x74, 0x73, 0x3D, 0x31, 0x32, 0x37, 0x2E, 0x30, 0x2E, 0x30, 0x2E, 0x31])
    (negoNew [PROTOCOL_SSL]) (by decide) rfl (by decide)
  exact ⟨pdu, hsent, hiff.mpr (.inr ⟨by decide, _, rfl, by decide, by decide⟩)⟩

/-- The routing token `"abc"` is too short: the length indicator holds the length of the request, and
the server refuses it. -/
theorem negoReadRequest_refuses_short_token :
    ∃ pdu, (negoSendNegotiationRequest (.replying []) (negoWithToken [0x61, 0x62, 0x63])).2.sent =
        [⟨PROTOCOL_SSL, pdu⟩] ∧
      pdu.length - 5 < 2 ^ 8 ∧
      (negoReadRequest (negoNew [PROTOCOL_SSL]) (ofBytes pdu)).1 = false :=
  ⟨_, rfl, by decide, by decide⟩

end FreeRdp
