import FreeRdp.Core.Gateway.WebsocketFrames

/-!
# Reading websocket frames

Where a reader is in a sequence of server frames, and what every round of `rdg_websocket_read` does
to that.
-/

namespace FreeRdp

/-- What the caller has got when the first `k` bytes of a frame's payload were read. -/
def ServerFrame.received (orig : Nat) (f : ServerFrame) (k : Nat) : List UInt8 :=
  if f.effective orig = WebsocketBinaryOpcode then f.payload.take k else []

/-- A ping or close frame. -/
def ServerFrame.isControl (f : ServerFrame) : Prop :=
  f.kind = WebsocketPingOpcode ∨ f.kind = WebsocketCloseOpcode

/-- The response stream when the first `k` bytes of a frame's payload were read. -/
def ResponseAt (f : ServerFrame) (k : Nat) (response : Option ResponseStream) : Prop :=
  ¬ f.isControl ∧ response = none ∨
    f.isControl ∧ (response = none ∧ k = 0 ∨
      response = some ⟨f.payload.length, f.payload.take k⟩ ∧ f.payload ≠ [])

/-- A reader in a longer form of the length, of which `p` bytes were read. -/
structure LengthAt (f : ServerFrame) (r : WebsocketReader) (rest : List UInt8) (p : Nat) :
    Prop where
  state : r.context.state = if f.form = .sixteen then .shortLength else .longLength
  response : r.context.responseStreamBuffer = none
  masking : r.context.masking = false
  position : r.context.lengthAndMaskPosition = p
  length : r.context.payloadLength = valueBE (f.extendedLength.take p)
  content : bioContent r.bio = f.extendedLength.drop p ++ (f.payload ++ rest)

/-- A reader in the payload, of which `k` bytes were read. -/
structure PayloadAt (f : ServerFrame) (r : WebsocketReader) (rest : List UInt8) (k : Nat) :
    Prop where
  state : r.context.state = .payload
  response : ResponseAt f k r.context.responseStreamBuffer
  length : r.context.payloadLength = f.payload.length - k
  content : bioContent r.bio = f.payload.drop k ++ rest

/-- The progress of a reader inside a frame, where `rest` comes behind it: what the caller has got
of the frame. -/
inductive InFrame (orig : Nat) (f : ServerFrame) (r : WebsocketReader) (rest : List UInt8) :
    List UInt8 → Prop
  | length (hstate : r.context.state = .lengthAndMasking)
      (hresponse : r.context.responseStreamBuffer = none)
      (hcontent : bioContent r.bio = f.lengthByte :: (f.extendedLength ++ (f.payload ++ rest))) :
      InFrame orig f r rest []
  | extended (p : Nat) (hp : p < f.form.size) (h : LengthAt f r rest p) : InFrame orig f r rest []
  | payload (k : Nat) (hk : k ≤ f.payload.length) (h : PayloadAt f r rest k) :
      InFrame orig f r rest (f.received orig k)

/-- The position of a reader in a sequence of frames: what the caller has got, and which answers
were written. -/
inductive WebsocketAt (frames : List ServerFrame) (r : WebsocketReader) (returned : List UInt8) :
    Prop
  | boundary (before after : List ServerFrame) (hframes : frames = before ++ after)
      (hcontent : bioContent r.bio = encodeFrames after)
      (hstate : r.context.state = .opcodeAndFin)
      (hresponse : r.context.responseStreamBuffer = none)
      (horiginal : r.context.fragmentOriginalOpcode = originalAfter before)
      (hreturned : returned = binaryPayload 0 before)
      (hwritten : r.written.map decodeClientFrame = (frameAnswers before).map some)
  | within (before : List ServerFrame) (f : ServerFrame) (after : List ServerFrame)
      (hframes : frames = before ++ f :: after)
      (hopcode : r.context.opcode = f.opcode.toNat)
      (horiginal : r.context.fragmentOriginalOpcode = originalAfter (before ++ [f]))
      (hwritten : r.written.map decodeClientFrame = (frameAnswers before).map some)
      (part : List UInt8)
      (hinside : InFrame (originalAfter before) f r (encodeFrames after) part)
      (hreturned : returned = binaryPayload 0 before ++ part)

/-- The length of the payload of a control frame. -/
def WebsocketContext.controlLength (context : WebsocketContext) : Nat :=
  match context.responseStreamBuffer with
  | some response => response.capacity
  | none => context.payloadLength

/-- What does not happen in a round: a frame is skipped with a read that gets more than is left of
it; a control frame is longer than an `int`, or a pong for it, or there is no memory for them; a ping
comes after a close; or a read of data brings the call to more bytes than an `int` counts. -/
def WebsocketAvoids (malloc : Malloc) (s : WebsocketCall) : Prop :=
  let context := s.reader.context
  let length := context.controlLength
  context.state = .payload →
    if context.effectiveOpcode = WebsocketBinaryOpcode then
      min context.payloadLength s.size ≤ INT_MAX ∧
        s.buffer.length + (bioRead (min context.payloadLength s.size) s.reader.bio).1 ≤ INT_MAX
    else if context.effectiveOpcode = WebsocketPingOpcode ∨
        context.effectiveOpcode = WebsocketCloseOpcode then
      length ≤ INT_MAX ∧ (length ≠ 0 → malloc.succeeds length) ∧
        (context.effectiveOpcode = WebsocketPingOpcode → context.closeSent = false ∧
          rdgWebsocketFullLen length ≤ INT_MAX ∧
          (length ≠ 0 → malloc.succeeds (rdgWebsocketFullLen length)))
    else context.payloadLength = 0 ∨ (bioRead 256 s.reader.bio).1 ≤ context.payloadLength

instance (malloc : Malloc) : DecidablePred (WebsocketAvoids malloc) := fun s => by
  unfold WebsocketAvoids
  infer_instance

section Rounds

variable {frames : List ServerFrame} {r : WebsocketReader} {returned : List UInt8}

/-- The opcode that a frame is handled with. -/
lemma effectiveOpcode_eq {before : List ServerFrame} {f : ServerFrame} {context : WebsocketContext}
    (hopcode : context.opcode = f.opcode.toNat)
    (horiginal : context.fragmentOriginalOpcode = originalAfter (before ++ [f])) :
    context.effectiveOpcode = f.effective (originalAfter before) := by
  rw [WebsocketContext.effectiveOpcode, hopcode, horiginal, originalAfter_concat,
    ServerFrame.effective, ServerFrame.original, ServerFrame.kind]
  split
  · rename_i hkind
    rw [if_neg fun hor => hor.1 hkind]
  · rfl

/-- The end of a frame that has no answer. -/
lemma WebsocketAt.endFrame {before after : List ServerFrame} {f : ServerFrame}
    (hframes : frames = before ++ f :: after)
    (hcontent : bioContent r.bio = encodeFrames after) (hstate : r.context.state = .opcodeAndFin)
    (hresponse : r.context.responseStreamBuffer = none)
    (horiginal : r.context.fragmentOriginalOpcode = originalAfter (before ++ [f]))
    (hreturned : returned = binaryPayload 0 before ++ f.binary (originalAfter before))
    (hwritten : r.written.map decodeClientFrame = (frameAnswers (before ++ [f])).map some) :
    WebsocketAt frames r returned := by
  refine .boundary (before ++ [f]) after ?_ hcontent hstate hresponse horiginal ?_ hwritten
  · rw [hframes, List.append_assoc]
    rfl
  · rw [hreturned, binaryPayload_concat]
    rfl

/-- The first byte of a frame. -/
lemma WebsocketAt.opcodeRead {before after : List ServerFrame} {f : ServerFrame} {byte : UInt8}
    {bio : List BioEvent} (hframes : frames = before ++ f :: after) (hbyte : byte = f.opcode)
    (hcontent : bioContent bio = f.lengthByte :: (f.extendedLength ++ (f.payload ++
      encodeFrames after)))
    (hresponse : r.context.responseStreamBuffer = none)
    (horiginal : r.context.fragmentOriginalOpcode = originalAfter before)
    (hreturned : returned = binaryPayload 0 before)
    (hwritten : r.written.map decodeClientFrame = (frameAnswers before).map some) :
    WebsocketAt frames { r with
      bio := bio
      context := { r.context with
        opcode := byte.toNat
        fragmentOriginalOpcode :=
          if byte.toNat &&& 0xf ≠ WebsocketContinuationOpcode ∧ byte.toNat &&& 0xf < 0x08 then
            byte.toNat
          else r.context.fragmentOriginalOpcode
        state := .lengthAndMasking } } returned := by
  subst hbyte
  refine .within before f after hframes rfl ?_ hwritten [] (.length rfl hresponse hcontent) ?_
  · rw [originalAfter_concat, horiginal]
    rfl
  · rw [hreturned, List.append_nil]

/-- A reader is where it was if its BIO has the same content. -/
lemma WebsocketAt.bio (h : WebsocketAt frames r returned) {bio : List BioEvent}
    (hbio : bioContent r.bio = bioContent bio) :
    WebsocketAt frames { r with bio := bio } returned := by
  cases h with
  | boundary before after hframes hcontent hstate hresponse horiginal hreturned hwritten =>
    exact .boundary before after hframes (hbio.symm.trans hcontent) hstate hresponse horiginal
      hreturned hwritten
  | within before f after hframes hopcode horiginal hwritten part hinside hreturned =>
    refine .within before f after hframes hopcode horiginal hwritten part ?_ hreturned
    cases hinside with
    | length hstate hresponse hcontent =>
      exact .length hstate hresponse (hbio.symm.trans hcontent)
    | extended p hp h => exact .extended p hp { h with content := hbio.symm.trans h.content }
    | payload k hk h => exact .payload k hk { h with content := hbio.symm.trans h.content }

/-- The measure of the loop: a round reads something, or ends a frame. -/
def WebsocketCall.measure (s : WebsocketCall) : Nat :=
  2 * bioSize s.reader.bio + if s.reader.context.state = .payload then 1 else 0

/-- A round after which the call goes on. -/
structure WebsocketGoesOn (frames : List ServerFrame) (returned : List UInt8)
    (s s' : WebsocketCall) : Prop where
  position : WebsocketAt frames s'.reader (returned ++ s'.buffer)
  size_pos : 0 < s'.size
  size_eq : s'.buffer.length + s'.size = s.buffer.length + s.size
  count_le : s'.buffer.length ≤ INT_MAX
  measure_lt : s'.measure < s.measure
  bioSize_le : bioSize s'.reader.bio ≤ bioSize s.reader.bio

/-- A call that returns: with the number of its bytes, or with a status that is not positive. -/
structure WebsocketReturns (frames : List ServerFrame) (returned : List UInt8) (bio : List BioEvent)
    (size : Nat) (result : WebsocketResult) : Prop where
  position : WebsocketAt frames result.2.2 (returned ++ result.2.1)
  status : if result.2.1 = [] then result.1 ≤ 0 else result.1 = result.2.1.length
  length_le : result.2.1.length ≤ size
  bio_lt : bioSize result.2.2.bio < bioSize bio ∨ bio = [] ∧ result.2.2.bio = []
  settled : ¬ (result.2.2.context.state = .payload ∧ result.2.2.context.payloadLength = 0)

/-- The outcome of a round. -/
def WebsocketRoundEnds (malloc : Malloc) (frames : List ServerFrame) (returned : List UInt8)
    (s : WebsocketCall) : Prop :=
  (rdgWebsocketRound malloc s).Ends (WebsocketGoesOn frames returned s)
    (WebsocketReturns frames returned s.reader.bio (s.buffer.length + s.size))

variable {malloc : Malloc} {s : WebsocketCall}

/-- A round that finds no data. -/
lemma WebsocketAt.noData {status : Int} {reader : WebsocketReader}
    (h : WebsocketAt frames reader (returned ++ s.buffer)) (hcount : s.buffer.length ≤ INT_MAX)
    (hstatus : status ≤ 0)
    (hbio : bioSize reader.bio < bioSize s.reader.bio ∨ s.reader.bio = [] ∧ reader.bio = [])
    (hsettled : ¬ (reader.context.state = .payload ∧ reader.context.payloadLength = 0)) :
    WebsocketReturns frames returned s.reader.bio (s.buffer.length + s.size)
      (s.result status reader) where
  position := h
  status := by
    rw [WebsocketCall.result, WebsocketCall.effectiveDataLen, intOfSize_of_le hcount]
    dsimp only
    split
    · rename_i hnil
      rw [hnil]
      exact hstatus
    · rename_i hbuffer
      have hpos := List.length_pos_iff.mpr hbuffer
      rw [if_pos (by omega)]
  length_le := Nat.le_add_right _ _
  bio_lt := hbio
  settled := hsettled

lemma measure_lt_of_bioSize_lt {s s' : WebsocketCall}
    (h : bioSize s'.reader.bio < bioSize s.reader.bio) : s'.measure < s.measure := by
  rw [WebsocketCall.measure, WebsocketCall.measure]
  split
  · omega
  · omega

/-- The round at the start of a frame. -/
lemma websocketRound_boundary (hsize : 0 < s.size) (hcount : s.buffer.length ≤ INT_MAX)
    {before after : List ServerFrame} (hframes : frames = before ++ after)
    (hcontent : bioContent s.reader.bio = encodeFrames after)
    (hstate : s.reader.context.state = .opcodeAndFin)
    (hresponse : s.reader.context.responseStreamBuffer = none)
    (horiginal : s.reader.context.fragmentOriginalOpcode = originalAfter before)
    (hreturned : returned ++ s.buffer = binaryPayload 0 before)
    (hwritten : s.reader.written.map decodeClientFrame = (frameAnswers before).map some) :
    WebsocketRoundEnds malloc frames returned s := by
  have hposition : WebsocketAt frames s.reader (returned ++ s.buffer) :=
    .boundary before after hframes hcontent hstate hresponse horiginal hreturned hwritten
  rw [WebsocketRoundEnds, rdgWebsocketRound]
  dsimp only
  rw [hstate]
  dsimp only
  rcases bioRead_one_cases s.reader.bio with ⟨status, bio, hread, hstatus, hbio, hless⟩ |
    ⟨byte, bio, hread, hbio, hless⟩
  · rw [hread]
    dsimp only
    rw [if_pos hstatus]
    refine (hposition.bio hbio).noData hcount hstatus
      (hless.imp_right fun hnil => ⟨hnil.1, hnil.2.1⟩) ?_
    rintro ⟨hpayload, -⟩
    rw [hstate] at hpayload
    cases hpayload
  · rw [hread]
    dsimp only
    rw [if_neg (by decide)]
    rw [hcontent] at hbio
    cases after with
    | nil => cases hbio
    | cons f after =>
      rw [encodeFrames_cons_bytes] at hbio
      obtain ⟨hbyte, hrest⟩ := List.cons.inj hbio
      exact ⟨.opcodeRead hframes hbyte.symm hrest.symm hresponse horiginal hreturned hwritten,
        hsize, rfl, hcount, measure_lt_of_bioSize_lt hless, hless.le⟩

/-- The round that reads the second byte of a frame. -/
lemma websocketRound_length (hsize : 0 < s.size) (hcount : s.buffer.length ≤ INT_MAX)
    {before after : List ServerFrame} {f : ServerFrame} (hframes : frames = before ++ f :: after)
    (hopcode : s.reader.context.opcode = f.opcode.toNat)
    (horiginal : s.reader.context.fragmentOriginalOpcode = originalAfter (before ++ [f]))
    (hwritten : s.reader.written.map decodeClientFrame = (frameAnswers before).map some)
    (hstate : s.reader.context.state = .lengthAndMasking)
    (hresponse : s.reader.context.responseStreamBuffer = none)
    (hcontent : bioContent s.reader.bio =
      f.lengthByte :: (f.extendedLength ++ (f.payload ++ encodeFrames after)))
    (hreturned : returned ++ s.buffer = binaryPayload 0 before) :
    WebsocketRoundEnds malloc frames returned s := by
  have hreturned' : returned ++ s.buffer = binaryPayload 0 before ++ [] := by
    rw [hreturned, List.append_nil]
  have hposition : WebsocketAt frames s.reader (returned ++ s.buffer) :=
    .within before f after hframes hopcode horiginal hwritten []
      (.length hstate hresponse hcontent) hreturned'
  rw [WebsocketRoundEnds, rdgWebsocketRound]
  dsimp only
  rw [hstate]
  dsimp only
  rcases bioRead_one_cases s.reader.bio with ⟨status, bio, hread, hstatus, hbio, hless⟩ |
    ⟨byte, bio, hread, hbio, hless⟩
  · rw [hread]
    dsimp only
    rw [if_pos hstatus]
    refine (hposition.bio hbio).noData hcount hstatus
      (hless.imp_right fun hnil => ⟨hnil.1, hnil.2.1⟩) ?_
    rintro ⟨hpayload, -⟩
    rw [hstate] at hpayload
    cases hpayload
  · rw [hread]
    dsimp only
    rw [if_neg (by decide)]
    rw [hcontent] at hbio
    obtain ⟨rfl, hrest⟩ := List.cons.inj hbio
    obtain ⟨hmask, hlen⟩ := f.lengthByte_spec
    refine ⟨?_, hsize, rfl, hcount, measure_lt_of_bioSize_lt hless, hless.le⟩
    dsimp only
    rw [List.headD_cons, hmask, hlen]
    have hfits := f.fits
    have hext : f.extendedLength = bytesBE f.form.size f.payload.length := rfl
    cases hform : f.form with
    | seven =>
      rw [hform] at hfits hext
      rw [show bytesBE LengthForm.seven.size f.payload.length = [] from rfl] at hext
      rw [hext, List.nil_append] at hrest
      dsimp only
      rw [if_pos (show f.payload.length < 126 from hfits)]
      refine .within before f after hframes hopcode horiginal hwritten _
        (.payload 0 (Nat.zero_le _) ⟨rfl, ?_, rfl, hrest.symm⟩) ?_
      · by_cases hcontrol : f.isControl
        · exact .inr ⟨hcontrol, .inl ⟨hresponse, rfl⟩⟩
        · exact .inl ⟨hcontrol, hresponse⟩
      · rw [hreturned', ServerFrame.received, List.take_zero]
        split
        · rfl
        · rfl
    | sixteen =>
      exact .within before f after hframes hopcode horiginal hwritten []
        (.extended 0 (by rw [hform]; decide)
          ⟨by rw [hform]; rfl, hresponse, rfl, rfl, rfl, hrest.symm⟩) hreturned'
    | sixtyFour =>
      exact .within before f after hframes hopcode horiginal hwritten []
        (.extended 0 (by rw [hform]; decide)
          ⟨by rw [hform]; rfl, hresponse, rfl, rfl, rfl, hrest.symm⟩) hreturned'

/-- One more byte of the length. -/
lemma LengthAt.byte {f : ServerFrame} {rest : List UInt8} {p : Nat} (h : LengthAt f r rest p)
    (hp : p < f.form.size) {byte : UInt8} {bio : List BioEvent}
    (hbio : bioContent r.bio = byte :: bioContent bio) :
    LengthAt f { r with
      bio := bio
      context := { r.context with
        payloadLength := (r.context.payloadLength <<< 8 ||| byte.toNat) % 2 ^ 64
        lengthAndMaskPosition := r.context.lengthAndMaskPosition + 1 } } rest (p + 1) := by
  have hlt : p < f.extendedLength.length := by rwa [f.length_extendedLength]
  have hdrop := List.drop_eq_getElem_cons hlt
  rw [h.content, hdrop, List.cons_append] at hbio
  obtain ⟨rfl, hrest⟩ := List.cons.inj hbio
  refine ⟨h.state, h.response, h.masking, congrArg (· + 1) h.position, ?_, hrest.symm⟩
  have hvalue := valueBE_lt (f.extendedLength.take (p + 1))
  rw [List.take_succ_eq_append_getElem hlt, valueBE_concat, List.length_append, List.length_take,
    Nat.min_eq_left hlt.le, List.length_singleton] at hvalue
  have hpow : 256 ^ (p + 1) ≤ 256 ^ 8 := by
    refine Nat.pow_le_pow_right (by decide) ?_
    have := f.form.size_le
    omega
  dsimp only
  rw [h.length, ← Nat.shiftLeft_add_eq_or_of_lt (UInt8.toNat_lt _), Nat.shiftLeft_eq,
    List.take_succ_eq_append_getElem hlt, valueBE_concat]
  exact Nat.mod_eq_of_lt (hvalue.trans_le hpow)

/-- All bytes of the length. -/
lemma LengthAt.value {f : ServerFrame} {rest : List UInt8} (h : LengthAt f r rest f.form.size)
    (hform : f.form ≠ .seven) :
    r.context.payloadLength = f.payload.length ∧ bioContent r.bio = f.payload ++ rest := by
  have hlen := f.length_extendedLength
  have hfits := f.fits
  constructor
  · rw [h.length, List.take_of_length_le hlen.le, ServerFrame.extendedLength]
    refine valueBE_bytesBE (hfits.trans_le ?_)
    cases hf : f.form with
    | seven => exact absurd hf hform
    | sixteen => exact le_rfl
    | sixtyFour => exact le_rfl
  · rw [h.content, List.drop_of_length_le hlen.le, List.nil_append]

/-- The inner loop for the length: it ends at a read without data, or when the length is there. -/
lemma rdgWebsocketReadLength_spec {before after : List ServerFrame} {f : ServerFrame}
    (hframes : frames = before ++ f :: after) (hopcode : r.context.opcode = f.opcode.toNat)
    (horiginal : r.context.fragmentOriginalOpcode = originalAfter (before ++ [f]))
    (hwritten : r.written.map decodeClientFrame = (frameAnswers before).map some)
    (hreturned : returned = binaryPayload 0 before ++ []) (hform : f.form ≠ .seven) {n p : Nat}
    (hn : p + n = f.form.size) (h : LengthAt f r (encodeFrames after) p) :
    (∃ status r', rdgWebsocketReadLength n r = (some status, r') ∧ status ≤ 0 ∧
        WebsocketAt frames r' returned ∧ r'.context.state ≠ .payload ∧
        (bioSize r'.bio < bioSize r.bio ∨ r.bio = [] ∧ r'.bio = [])) ∨
      ∃ r', rdgWebsocketReadLength n r = (none, r') ∧
        WebsocketAt frames { r' with context := r'.context.afterLength } returned ∧
        bioSize r'.bio + n ≤ bioSize r.bio := by
  induction n generalizing r p with
  | zero =>
    right
    obtain rfl : p = f.form.size := hn
    obtain ⟨hlength, hcontent⟩ := h.value hform
    refine ⟨r, rfl, .within before f after hframes hopcode horiginal hwritten _
      (.payload 0 (Nat.zero_le _) ⟨?_, ?_, hlength, hcontent⟩) ?_, le_rfl⟩
    · rw [WebsocketContext.afterLength, h.masking]
      rfl
    · by_cases hcontrol : f.isControl
      · exact .inr ⟨hcontrol, .inl ⟨h.response, rfl⟩⟩
      · exact .inl ⟨hcontrol, h.response⟩
    · rw [hreturned, ServerFrame.received, List.take_zero, ite_self]
  | succ n ih =>
    have hp : p < f.form.size := by omega
    rw [rdgWebsocketReadLength]
    rcases bioRead_one_cases r.bio with ⟨status, bio, hread, hstatus, hbio, hless⟩ |
      ⟨byte, bio, hread, hbio, hless⟩
    · left
      rw [hread]
      dsimp only
      rw [if_pos hstatus]
      refine ⟨status, _, rfl, hstatus, WebsocketAt.bio (.within before f after hframes hopcode
        horiginal hwritten [] (.extended p hp h) hreturned) hbio, ?_,
        hless.imp_right fun hnil => ⟨hnil.1, hnil.2.1⟩⟩
      dsimp only
      rw [h.state]
      split
      · decide
      · decide
    · rw [hread]
      dsimp only
      rw [if_neg (by decide)]
      rcases ih (r := { r with
          bio := bio
          context := { r.context with
            payloadLength := (r.context.payloadLength <<< 8 ||| byte.toNat) % 2 ^ 64
            lengthAndMaskPosition := r.context.lengthAndMaskPosition + 1 } })
        hopcode horiginal hwritten (by omega) (h.byte hp hbio) with
        ⟨status, r', hloop, hstatus, hposition, hstate, hbio'⟩ | ⟨r', hloop, hposition, hbio'⟩
      · refine .inl ⟨status, r', hloop, hstatus, hposition, hstate, .inl ?_⟩
        rcases hbio' with hlt | hnil
        · exact hlt.trans hless
        · rw [hnil.2]
          exact Nat.zero_lt_of_lt hless
      · exact .inr ⟨r', hloop, hposition, by dsimp only at hbio'; omega⟩

/-- The round in a longer form of the length. -/
lemma websocketRound_extended (hsize : 0 < s.size) (hcount : s.buffer.length ≤ INT_MAX)
    {before after : List ServerFrame} {f : ServerFrame} (hframes : frames = before ++ f :: after)
    (hopcode : s.reader.context.opcode = f.opcode.toNat)
    (horiginal : s.reader.context.fragmentOriginalOpcode = originalAfter (before ++ [f]))
    (hwritten : s.reader.written.map decodeClientFrame = (frameAnswers before).map some)
    {p : Nat} (hp : p < f.form.size) (h : LengthAt f s.reader (encodeFrames after) p)
    (hreturned : returned ++ s.buffer = binaryPayload 0 before ++ []) :
    WebsocketRoundEnds malloc frames returned s := by
  have hform : f.form ≠ .seven := by
    intro hseven
    rw [hseven] at hp
    exact absurd hp (Nat.not_lt_zero p)
  have hround : ∀ o r, rdgWebsocketReadLength (f.form.size - p) s.reader = (o, r) →
      rdgWebsocketRound malloc s =
        o.elim (.next { s with reader := { r with context := r.context.afterLength } })
          fun status => .done (s.result status r) := by
    intro o r hloop
    rw [rdgWebsocketRound]
    dsimp only
    rw [h.state, h.position]
    cases hf : f.form with
    | seven => exact absurd hf hform
    | sixteen =>
      have hread : rdgWebsocketReadLength (2 - p) s.reader = (o, r) := by
        rw [← hloop, hf]
        rfl
      simp only [if_true, hread]
      cases o <;> rfl
    | sixtyFour =>
      have hread : rdgWebsocketReadLength (8 - p) s.reader = (o, r) := by
        rw [← hloop, hf]
        rfl
      simp only [reduceCtorEq, if_false, hread]
      cases o <;> rfl
  rw [WebsocketRoundEnds]
  rcases rdgWebsocketReadLength_spec hframes hopcode horiginal hwritten hreturned hform
    (Nat.add_sub_cancel' hp.le) h with
    ⟨status, r', hloop, hstatus, hposition, hstate, hbio⟩ | ⟨r', hloop, hposition, hbio⟩
  · rw [hround _ _ hloop]
    exact hposition.noData hcount hstatus hbio fun hand => hstate hand.1
  · rw [hround _ _ hloop]
    have hless : bioSize r'.bio < bioSize s.reader.bio := by omega
    exact ⟨hposition, hsize, rfl, hcount, measure_lt_of_bioSize_lt hless, hless.le⟩

/-- Bytes that were read from a payload. -/
lemma PayloadAt.read {f : ServerFrame} {rest bytes : List UInt8} {k : Nat}
    (h : PayloadAt f r rest k) (hle : bytes.length ≤ f.payload.length - k) {bio : List BioEvent}
    (hbio : bioContent r.bio = bytes ++ bioContent bio) :
    bytes = (f.payload.drop k).take bytes.length ∧
      bioContent bio = f.payload.drop (k + bytes.length) ++ rest := by
  have hlen : bytes.length ≤ (f.payload.drop k).length := by rwa [List.length_drop]
  rw [h.content] at hbio
  constructor
  · have htake := congrArg (List.take bytes.length) hbio
    rw [List.take_left, List.take_append_of_le_length hlen] at htake
    exact htake.symm
  · have hdrop := congrArg (List.drop bytes.length) hbio
    rw [List.drop_left, List.drop_append_of_le_length hlen, List.drop_drop] at hdrop
    exact hdrop.symm

lemma ServerFrame.received_add {f : ServerFrame} {orig k n : Nat}
    (hbinary : f.effective orig = WebsocketBinaryOpcode) :
    f.received orig (k + n) = f.received orig k ++ (f.payload.drop k).take n := by
  rw [received, received, if_pos hbinary, if_pos hbinary, List.take_add]

lemma ServerFrame.received_length (f : ServerFrame) (orig : Nat) :
    f.received orig f.payload.length = f.binary orig := by
  rw [received, binary, List.take_length]

lemma ServerFrame.payload_lt (f : ServerFrame) : f.payload.length < 2 ^ 64 := by
  refine f.fits.trans_le ?_
  cases f.form with
  | seven => norm_num [LengthForm.bound]
  | sixteen => norm_num [LengthForm.bound]
  | sixtyFour => norm_num [LengthForm.bound]

lemma ServerFrame.answer_of_not_isControl {f : ServerFrame} (h : ¬ f.isControl) :
    f.answer = none := by
  rw [answer, if_neg fun hping => h (.inl hping), if_neg fun hclose => h (.inr hclose)]

/-- The payload that is left after a read. -/
lemma PayloadAt.consume_length {f : ServerFrame} {rest : List UInt8} {k n : Nat}
    (h : PayloadAt f r rest k) (hn : n ≤ f.payload.length - k) :
    sizeSub r.context.payloadLength n = f.payload.length - (k + n) := by
  have hlt := f.payload_lt
  rw [h.length, sizeSub_of_le hn (by omega)]
  omega

lemma consume_of_eq_zero {context : WebsocketContext} {n : Nat}
    (h : sizeSub context.payloadLength n = 0) :
    context.consume n = { context with payloadLength := 0, state := .opcodeAndFin } := by
  rw [WebsocketContext.consume, h]
  rfl

lemma consume_of_ne_zero {context : WebsocketContext} {n : Nat}
    (h : sizeSub context.payloadLength n ≠ 0) :
    context.consume n = { context with payloadLength := sizeSub context.payloadLength n } := by
  rw [WebsocketContext.consume, if_neg h]

/-- A part of a payload is returned to the caller or skipped. -/
lemma WebsocketAt.consume {before after : List ServerFrame} {f : ServerFrame} {bytes : List UInt8}
    (hframes : frames = before ++ f :: after) (hopcode : r.context.opcode = f.opcode.toNat)
    (horiginal : r.context.fragmentOriginalOpcode = originalAfter (before ++ [f]))
    (hwritten : r.written.map decodeClientFrame = (frameAnswers before).map some)
    {k : Nat} (hk : k ≤ f.payload.length) (h : PayloadAt f r (encodeFrames after) k)
    (hcontrol : ¬ f.isControl) (hle : bytes.length ≤ f.payload.length - k) {bio : List BioEvent}
    (hbio : bioContent r.bio = bytes ++ bioContent bio) :
    WebsocketAt frames { r with bio := bio, context := r.context.consume bytes.length }
      (binaryPayload 0 before ++ f.received (originalAfter before) (k + bytes.length)) := by
  have hcontent := (h.read hle hbio).2
  have hresponse : r.context.responseStreamBuffer = none := by
    rcases h.response with hnone | hsome
    · exact hnone.2
    · exact absurd hsome.1 hcontrol
  have hlength := h.consume_length hle
  by_cases hend : k + bytes.length = f.payload.length
  · rw [hend, List.drop_length, List.nil_append] at hcontent
    rw [hend, Nat.sub_self] at hlength
    rw [hend, f.received_length, consume_of_eq_zero hlength]
    refine .endFrame hframes hcontent rfl hresponse horiginal rfl ?_
    rw [frameAnswers_concat, f.answer_of_not_isControl hcontrol]
    exact hwritten.trans (by simp)
  · rw [consume_of_ne_zero (by omega), hlength]
    exact .within before f after hframes hopcode horiginal hwritten _
      (.payload (k + bytes.length) (by omega)
        ⟨h.state, .inl ⟨hcontrol, hresponse⟩, rfl, hcontent⟩) rfl

/-- A frame whose payload was read before it ends without an answer. -/
lemma WebsocketAt.finish {before after : List ServerFrame} {f : ServerFrame}
    (hframes : frames = before ++ f :: after)
    (horiginal : r.context.fragmentOriginalOpcode = originalAfter (before ++ [f]))
    (hwritten : r.written.map decodeClientFrame = (frameAnswers before).map some)
    {k : Nat} (hk : k ≤ f.payload.length) (h : PayloadAt f r (encodeFrames after) k)
    (hcontrol : ¬ f.isControl) (hzero : r.context.payloadLength = 0) :
    WebsocketAt frames r.endFrame
      (binaryPayload 0 before ++ f.received (originalAfter before) k) := by
  have hend : k = f.payload.length := by
    rw [h.length] at hzero
    omega
  subst hend
  rw [f.received_length]
  refine .endFrame hframes ?_ rfl ?_ horiginal rfl ?_
  · rw [← List.nil_append (encodeFrames after), ← List.drop_length (l := f.payload)]
    exact h.content
  · rcases h.response with hnone | hsome
    · exact hnone.2
    · exact absurd hsome.1 hcontrol
  · rw [frameAnswers_concat, f.answer_of_not_isControl hcontrol]
    exact hwritten.trans (by simp)

lemma consume_settled (context : WebsocketContext) (n : Nat) :
    ¬ ((context.consume n).state = .payload ∧ (context.consume n).payloadLength = 0) := by
  rintro ⟨hstate, hlength⟩
  rw [WebsocketContext.consume] at hstate hlength
  dsimp only at hstate hlength
  rw [if_pos hlength] at hstate
  cases hstate

/-- What `rdg_websocket_handle_payload` comes to: a negative status, or bytes for the caller. -/
def PayloadHandled (frames : List ServerFrame) (returned : List UInt8) (s : WebsocketCall)
    (status : Int) (bytes : List UInt8) (r' : WebsocketReader) : Prop :=
  status < 0 ∧ WebsocketAt frames r' (returned ++ s.buffer) ∧
      (bioSize r'.bio < bioSize s.reader.bio ∨ s.reader.bio = [] ∧ r'.bio = []) ∧
      ¬ (r'.context.state = .payload ∧ r'.context.payloadLength = 0) ∨
    status = bytes.length ∧ bytes.length ≤ s.size ∧
      WebsocketAt frames r' (returned ++ (s.buffer ++ bytes)) ∧
      (bioSize r'.bio < bioSize s.reader.bio ∧
          ¬ (r'.context.state = .payload ∧ r'.context.payloadLength = 0) ∨
        bytes = [] ∧ r'.bio = s.reader.bio ∧ r'.context.state = .opcodeAndFin)

/-- A round in the payload, by what is done with it. -/
lemma websocketRound_payload (hsize : 0 < s.size) (hstate : s.reader.context.state = .payload)
    {status : Int} {bytes : List UInt8} {r' : WebsocketReader}
    (hhandle : rdgWebsocketHandlePayload malloc s.reader s.size = (status, bytes, r'))
    (hcount : s.buffer.length + bytes.length ≤ INT_MAX)
    (h : PayloadHandled frames returned s status bytes r') :
    WebsocketRoundEnds malloc frames returned s := by
  rw [WebsocketRoundEnds, rdgWebsocketRound]
  dsimp only
  rw [hstate]
  dsimp only
  rw [hhandle]
  dsimp only
  have hcount' : (s.buffer ++ bytes).length ≤ INT_MAX := by rwa [List.length_append]
  rcases h with ⟨hneg, hposition, hbio, hsettled⟩ | ⟨rfl, hle, hposition, hbio⟩
  · rw [if_pos hneg]
    exact hposition.noData (by omega) hneg.le hbio hsettled
  · rw [if_neg (by omega), Int.toNat_natCast]
    by_cases hfull : bytes.length = s.size
    · rw [if_pos hfull]
      rcases hbio with ⟨hless, hsettled⟩ | ⟨rfl, -⟩
      · refine ⟨hposition, ?_, ?_, .inl hless, hsettled⟩
        · dsimp only
          rw [if_neg]
          · rw [WebsocketCall.effectiveDataLen, intOfSize_of_le hcount']
          · intro hnil
            rw [List.append_eq_nil_iff] at hnil
            rw [hnil.2, List.length_nil] at hfull
            omega
        · rw [List.length_append, hfull]
      · rw [List.length_nil] at hfull
        omega
    · rw [if_neg hfull]
      refine ⟨hposition, ?_, ?_, hcount', ?_, ?_⟩
      · dsimp only
        omega
      · dsimp only
        rw [List.length_append]
        omega
      · rcases hbio with ⟨hless, -⟩ | ⟨-, hbio, hstate'⟩
        · exact measure_lt_of_bioSize_lt hless
        · rw [WebsocketCall.measure, WebsocketCall.measure, hstate, hbio, hstate']
          exact Nat.lt_succ_self _
      · rcases hbio with ⟨hless, -⟩ | ⟨-, hbio, -⟩
        · exact hless.le
        · exact (congrArg bioSize hbio).le

/-- A read without data in the payload. -/
lemma WebsocketAt.payloadNoData {status : Int} {bio : List BioEvent} {reader : WebsocketReader}
    (h : WebsocketAt frames reader (returned ++ s.buffer)) (hstatus : status ≤ 0)
    (hbio : bioSize bio < bioSize s.reader.bio ∨ s.reader.bio = [] ∧ bio = [] ∧ status < 0)
    (hcontent : bioContent reader.bio = bioContent bio)
    (hlength : reader.context.payloadLength ≠ 0) :
    PayloadHandled frames returned s status [] { reader with bio := bio } := by
  have hposition := h.bio hcontent
  by_cases hneg : status < 0
  · exact .inl ⟨hneg, hposition, hbio.imp_right fun hnil => ⟨hnil.1, hnil.2.1⟩, fun hand =>
      hlength hand.2⟩
  · refine .inr ⟨by rw [List.length_nil]; omega, Nat.zero_le _, ?_, .inl ⟨?_, fun hand =>
      hlength hand.2⟩⟩
    · rwa [List.append_nil]
    · exact hbio.resolve_right fun hnil => hneg hnil.2.2

/-- The payload of a binary message. -/
lemma rdgWebsocketReadData_handled (hsize : 0 < s.size) (hcount : s.buffer.length ≤ INT_MAX)
    (hmax : min s.reader.context.payloadLength s.size ≤ INT_MAX)
    (hcount' : s.buffer.length +
      (bioRead (min s.reader.context.payloadLength s.size) s.reader.bio).1 ≤ INT_MAX)
    {before after : List ServerFrame} {f : ServerFrame} (hframes : frames = before ++ f :: after)
    (hopcode : s.reader.context.opcode = f.opcode.toNat)
    (horiginal : s.reader.context.fragmentOriginalOpcode = originalAfter (before ++ [f]))
    (hwritten : s.reader.written.map decodeClientFrame = (frameAnswers before).map some)
    {k : Nat} (hk : k ≤ f.payload.length) (h : PayloadAt f s.reader (encodeFrames after) k)
    (hreturned : returned ++ s.buffer =
      binaryPayload 0 before ++ f.received (originalAfter before) k)
    (hcontrol : ¬ f.isControl)
    (hbinary : f.effective (originalAfter before) = WebsocketBinaryOpcode) :
    PayloadHandled frames returned s (rdgWebsocketReadData s.reader s.size).1
        (rdgWebsocketReadData s.reader s.size).2.1 (rdgWebsocketReadData s.reader s.size).2.2 ∧
      s.buffer.length + (rdgWebsocketReadData s.reader s.size).2.1.length ≤ INT_MAX := by
  have hposition : WebsocketAt frames s.reader (returned ++ s.buffer) :=
    .within before f after hframes hopcode horiginal hwritten _ (.payload k hk h) hreturned
  rw [rdgWebsocketReadData]
  by_cases hzero : s.reader.context.payloadLength = 0
  · rw [if_pos hzero]
    refine ⟨.inr ⟨rfl, Nat.zero_le _, ?_, .inr ⟨rfl, rfl, rfl⟩⟩, hcount⟩
    rw [List.append_nil, hreturned]
    exact WebsocketAt.finish hframes horiginal hwritten hk h hcontrol hzero
  · rw [if_neg hzero]
    obtain ⟨n, hn⟩ : ∃ n, (if s.reader.context.payloadLength < s.size then
      s.reader.context.payloadLength else s.size) = n := ⟨_, rfl⟩
    have hbound : 0 < n ∧ n ≤ s.size ∧ n ≤ f.payload.length - k := by
      rw [← h.length]
      split at hn
      · omega
      · omega
    obtain ⟨hpos, hle, hleft⟩ := hbound
    have hmin : min s.reader.context.payloadLength s.size = n := by
      split at hn
      · omega
      · omega
    rw [hmin] at hmax hcount'
    rw [hn, bioReadSize_eq hpos hmax]
    rcases bioRead_cases hpos s.reader.bio with ⟨status, bio, hread, hstatus, hbio, hless⟩ |
      ⟨byte, bytes, bio, hread, hlen, hbio, hless⟩
    · rw [hread]
      dsimp only
      rw [if_pos hstatus]
      exact ⟨hposition.payloadNoData hstatus hless hbio hzero, hcount⟩
    · rw [hread] at hcount' ⊢
      dsimp only at hcount' ⊢
      rw [if_neg (by rw [List.length_cons]; omega), Int.toNat_natCast]
      refine ⟨.inr ⟨rfl, hlen.trans hle, ?_, .inl ⟨hless, consume_settled _ _⟩⟩,
        Int.ofNat_le.mp hcount'⟩
      have hconsume := WebsocketAt.consume hframes hopcode horiginal hwritten hk h hcontrol
        (hlen.trans hleft) hbio
      rw [f.received_add hbinary, ← (h.read (hlen.trans hleft) hbio).1] at hconsume
      rwa [← List.append_assoc, hreturned, List.append_assoc]

/-- The payload of a frame that is dropped. -/
lemma rdgWebsocketReadDiscard_handled
    {before after : List ServerFrame} {f : ServerFrame} (hframes : frames = before ++ f :: after)
    (hopcode : s.reader.context.opcode = f.opcode.toNat)
    (horiginal : s.reader.context.fragmentOriginalOpcode = originalAfter (before ++ [f]))
    (hwritten : s.reader.written.map decodeClientFrame = (frameAnswers before).map some)
    {k : Nat} (hk : k ≤ f.payload.length) (h : PayloadAt f s.reader (encodeFrames after) k)
    (hreturned : returned ++ s.buffer =
      binaryPayload 0 before ++ f.received (originalAfter before) k)
    (hcontrol : ¬ f.isControl)
    (hbinary : f.effective (originalAfter before) ≠ WebsocketBinaryOpcode)
    (hfits : s.reader.context.payloadLength = 0 ∨
      (bioRead 256 s.reader.bio).1 ≤ s.reader.context.payloadLength)
    {status : Int} {r' : WebsocketReader}
    (hdiscard : rdgWebsocketReadDiscard s.reader = (status, r')) :
    PayloadHandled frames returned s (if status < 0 then status else 0) [] r' := by
  have hposition : WebsocketAt frames s.reader (returned ++ s.buffer) :=
    .within before f after hframes hopcode horiginal hwritten _ (.payload k hk h) hreturned
  rw [rdgWebsocketReadDiscard] at hdiscard
  by_cases hzero : s.reader.context.payloadLength = 0
  · rw [if_pos hzero] at hdiscard
    obtain ⟨rfl, rfl⟩ := Prod.mk.inj hdiscard
    refine .inr ⟨rfl, Nat.zero_le _, ?_, .inr ⟨rfl, rfl, rfl⟩⟩
    rw [List.append_nil, hreturned]
    exact WebsocketAt.finish hframes horiginal hwritten hk h hcontrol hzero
  · rw [if_neg hzero] at hdiscard
    have hfits' := hfits.resolve_left hzero
    rcases bioRead_cases (n := 256) (by decide) s.reader.bio with
      ⟨status', bio, hread, hstatus, hbio, hless⟩ | ⟨byte, bytes, bio, hread, hlen, hbio, hless⟩
    · rw [hread] at hdiscard
      dsimp only at hdiscard
      rw [if_pos hstatus] at hdiscard
      obtain ⟨rfl, rfl⟩ := Prod.mk.inj hdiscard
      have hstatus' : (if status' < 0 then status' else 0) = status' := by
        split
        · rfl
        · omega
      rw [hstatus']
      exact hposition.payloadNoData hstatus hless hbio hzero
    · rw [hread] at hfits' hdiscard
      dsimp only at hfits' hdiscard
      have hpos : ¬ ((byte :: bytes).length : Int) ≤ 0 := by
        rw [List.length_cons]
        omega
      have hleft : (byte :: bytes).length ≤ f.payload.length - k := by
        rw [← h.length]
        exact Int.ofNat_le.mp hfits'
      rw [if_neg hpos, Int.toNat_natCast] at hdiscard
      obtain ⟨rfl, rfl⟩ := Prod.mk.inj hdiscard
      rw [if_neg fun hneg => hpos hneg.le]
      refine .inr ⟨rfl, Nat.zero_le _, ?_, .inl ⟨hless, consume_settled _ _⟩⟩
      have hconsume := WebsocketAt.consume hframes hopcode horiginal hwritten hk h hcontrol
        hleft hbio
      rw [List.append_nil, hreturned]
      rw [ServerFrame.received, if_neg hbinary] at hconsume ⊢
      exact hconsume

lemma set_response {x : Option ResponseStream} (h : r.context.responseStreamBuffer = x) :
    { r with context := { r.context with responseStreamBuffer := x } } = r := by
  rw [← h]

/-- There is a response stream for the payload of a control frame. -/
lemma PayloadAt.newResponse {f : ServerFrame} {rest : List UInt8} {k : Nat}
    (h : PayloadAt f r rest k) (hcontrol : f.isControl)
    (hmalloc : f.payload.length ≠ 0 → malloc.succeeds f.payload.length = true) :
    r.context.payloadLength = 0 ∧ r.newResponse malloc = r ∨
      r.context.payloadLength ≠ 0 ∧ f.payload ≠ [] ∧
        r.newResponse malloc = { r with context := { r.context with
          responseStreamBuffer := some ⟨f.payload.length, f.payload.take k⟩ } } := by
  have hlength := h.length
  rw [WebsocketReader.newResponse]
  rcases h.response with hnone | ⟨-, ⟨hnone, rfl⟩ | ⟨hsome, hne⟩⟩
  · exact absurd hcontrol hnone.1
  · by_cases hzero : r.context.payloadLength = 0
    · refine .inl ⟨hzero, ?_⟩
      rw [hnone]
      dsimp only
      rw [if_neg fun hand => hand.1 hzero]
      exact set_response hnone
    · refine .inr ⟨hzero, ?_, ?_⟩
      · rintro hnil
        rw [hnil] at hlength
        exact hzero hlength
      · rw [hnone]
        dsimp only
        rw [hlength, Nat.sub_zero] at hzero ⊢
        rw [if_pos ⟨hzero, hmalloc hzero⟩]
        rfl
  · rw [hsome]
    by_cases hzero : r.context.payloadLength = 0
    · exact .inl ⟨hzero, rfl⟩
    · exact .inr ⟨hzero, hne, (set_response hsome).symm⟩

/-- A control frame that was read as a whole: its payload is in the response stream. -/
structure ControlRead (f : ServerFrame) (rest : List UInt8) (r r' : WebsocketReader) : Prop where
  state : r'.context.state = .opcodeAndFin
  length : r'.context.payloadLength = 0
  content : bioContent r'.bio = rest
  response : r'.response = if f.payload = [] then none else some f.payload
  closeSent : r'.context.closeSent = r.context.closeSent
  original : r'.context.fragmentOriginalOpcode = r.context.fragmentOriginalOpcode
  written : r'.written = r.written

/-- The response stream, or the end of the frame, after a read of its payload. -/
lemma WebsocketAt.consumeControl {before after : List ServerFrame} {f : ServerFrame}
    {bytes : List UInt8} (hframes : frames = before ++ f :: after)
    (hopcode : r.context.opcode = f.opcode.toNat)
    (horiginal : r.context.fragmentOriginalOpcode = originalAfter (before ++ [f]))
    (hwritten : r.written.map decodeClientFrame = (frameAnswers before).map some)
    {k : Nat} (hk : k ≤ f.payload.length) (h : PayloadAt f r (encodeFrames after) k)
    (hcontrol : f.isControl) (hne : f.payload ≠ [])
    (hbinary : f.effective (originalAfter before) ≠ WebsocketBinaryOpcode)
    (hle : bytes.length ≤ f.payload.length - k) {bio : List BioEvent}
    (hbio : bioContent r.bio = bytes ++ bioContent bio) {context : WebsocketContext}
    (hcontext : context = { r.context.consume bytes.length with
      responseStreamBuffer := some ⟨f.payload.length, f.payload.take k ++ bytes⟩ }) :
    context.payloadLength ≠ 0 ∧
        WebsocketAt frames { r with bio := bio, context := context } (binaryPayload 0 before) ∨
      ControlRead f (encodeFrames after) r { r with bio := bio, context := context } := by
  obtain ⟨hbytes, hcontent⟩ := h.read hle hbio
  have htake : f.payload.take k ++ bytes = f.payload.take (k + bytes.length) := by
    rw [List.take_add, ← hbytes]
  have hlength := h.consume_length hle
  rw [htake] at hcontext
  by_cases hend : k + bytes.length = f.payload.length
  · right
    rw [hend, Nat.sub_self] at hlength
    rw [hend, List.drop_length, List.nil_append] at hcontent
    rw [hend, List.take_length, consume_of_eq_zero hlength] at hcontext
    subst hcontext
    refine ⟨rfl, rfl, hcontent, ?_, rfl, rfl, rfl⟩
    rw [if_neg hne]
    rfl
  · left
    rw [consume_of_ne_zero (by omega), hlength] at hcontext
    subst hcontext
    refine ⟨by dsimp only; omega, .within before f after hframes hopcode horiginal hwritten _
      (.payload (k + bytes.length) (by omega)
        ⟨h.state, .inr ⟨hcontrol, .inr ⟨rfl, hne⟩⟩, rfl, hcontent⟩) ?_⟩
    rw [ServerFrame.received, if_neg hbinary, List.append_nil]

/-- A payload of length 0, or the end of the payload. -/
lemma PayloadAt.controlRead {f : ServerFrame} {rest : List UInt8} {k : Nat}
    (h : PayloadAt f r rest k) (hk : k ≤ f.payload.length) (hcontrol : f.isControl)
    (hzero : r.context.payloadLength = 0) : ControlRead f rest r r.endFrame := by
  have hend : k = f.payload.length := by
    rw [h.length] at hzero
    omega
  refine ⟨rfl, hzero, ?_, ?_, rfl, rfl, rfl⟩
  · have hcontent := h.content
    rw [hend, List.drop_length, List.nil_append] at hcontent
    exact hcontent
  · rw [WebsocketReader.response, WebsocketReader.endFrame]
    dsimp only
    rcases h.response with hnone | ⟨-, ⟨hnone, rfl⟩ | ⟨hsome, hne⟩⟩
    · exact absurd hcontrol hnone.1
    · rw [hnone, if_pos (List.length_eq_zero_iff.mp hend.symm)]
      rfl
    · rw [hsome, if_neg hne, hend, List.take_length]
      rfl

/-- The payload of a control frame is read into its response stream. -/
lemma rdgWebsocketReadWStream_of_response {before after : List ServerFrame} {f : ServerFrame}
    (hframes : frames = before ++ f :: after) (hopcode : r.context.opcode = f.opcode.toNat)
    (horiginal : r.context.fragmentOriginalOpcode = originalAfter (before ++ [f]))
    (hwritten : r.written.map decodeClientFrame = (frameAnswers before).map some)
    {k : Nat} (hk : k ≤ f.payload.length) (h : PayloadAt f r (encodeFrames after) k)
    (hcontrol : f.isControl) (hne : f.payload ≠ [])
    (hbinary : f.effective (originalAfter before) ≠ WebsocketBinaryOpcode)
    (hmax : f.payload.length ≤ INT_MAX) (hzero : r.context.payloadLength ≠ 0)
    (hresponse : r.context.responseStreamBuffer =
      some ⟨f.payload.length, f.payload.take k⟩)
    {status : Int} {r' : WebsocketReader} (hread : rdgWebsocketReadWStream r = (status, r')) :
    r'.context.payloadLength ≠ 0 ∧ WebsocketAt frames r' (binaryPayload 0 before) ∧
        (bioSize r'.bio < bioSize r.bio ∨ r.bio = [] ∧ r'.bio = [] ∧ status < 0) ∨
      0 ≤ status ∧ ControlRead f (encodeFrames after) r r' ∧
        (bioSize r'.bio < bioSize r.bio ∨ r'.bio = r.bio) := by
  have hlength := h.length
  have hcapacity : f.payload.length - (f.payload.take k).length = r.context.payloadLength := by
    rw [List.length_take, Nat.min_eq_left hk, hlength]
  have heq : rdgWebsocketReadWStream r =
      r.fillResponse ⟨f.payload.length, f.payload.take k⟩
        (bioRead r.context.payloadLength r.bio) := by
    rw [← bioReadSize_eq (Nat.pos_of_ne_zero hzero) (by omega), rdgWebsocketReadWStream,
      if_neg hzero, hresponse]
    exact if_neg fun hneq => hneq hcapacity
  rw [heq, WebsocketReader.fillResponse] at hread
  rcases bioRead_cases (Nat.pos_of_ne_zero hzero) r.bio with
    ⟨status', bio, hbioRead, hstatus, hbio, hless⟩ |
    ⟨byte, bytes, bio, hbioRead, hlen, hbio, hless⟩
  · left
    rw [hbioRead] at hread
    dsimp only at hread
    rw [if_pos hstatus] at hread
    obtain ⟨rfl, rfl⟩ := Prod.mk.inj hread
    refine ⟨hzero, WebsocketAt.bio (.within before f after hframes hopcode horiginal hwritten _
      (.payload k hk h) ?_) hbio, hless⟩
    rw [ServerFrame.received, if_neg hbinary, List.append_nil]
  · rw [hbioRead] at hread
    dsimp only at hread
    have hpos : ¬ ((byte :: bytes).length : Int) ≤ 0 := by
      rw [List.length_cons]
      omega
    rw [if_neg hpos, Int.toNat_natCast] at hread
    obtain ⟨rfl, rfl⟩ := Prod.mk.inj hread
    rw [hlength] at hlen
    rcases WebsocketAt.consumeControl hframes hopcode horiginal hwritten hk h hcontrol hne hbinary
      hlen hbio rfl with ⟨hmore, hposition⟩ | hcontrolRead
    · exact .inl ⟨hmore, hposition, .inl hless⟩
    · exact .inr ⟨Int.natCast_nonneg _, hcontrolRead, .inl hless⟩

/-- The payload of a control frame is read into a response stream, old or new. -/
lemma rdgWebsocketReadWStream_spec {before after : List ServerFrame} {f : ServerFrame}
    (hframes : frames = before ++ f :: after) (hopcode : r.context.opcode = f.opcode.toNat)
    (horiginal : r.context.fragmentOriginalOpcode = originalAfter (before ++ [f]))
    (hwritten : r.written.map decodeClientFrame = (frameAnswers before).map some)
    {k : Nat} (hk : k ≤ f.payload.length) (h : PayloadAt f r (encodeFrames after) k)
    (hcontrol : f.isControl)
    (hbinary : f.effective (originalAfter before) ≠ WebsocketBinaryOpcode)
    (hmax : f.payload.length ≤ INT_MAX)
    (hmalloc : f.payload.length ≠ 0 → malloc.succeeds f.payload.length = true)
    {status : Int} {r' : WebsocketReader}
    (hread : rdgWebsocketReadWStream (r.newResponse malloc) = (status, r')) :
    r'.context.payloadLength ≠ 0 ∧ WebsocketAt frames r' (binaryPayload 0 before) ∧
        (bioSize r'.bio < bioSize r.bio ∨ r.bio = [] ∧ r'.bio = [] ∧ status < 0) ∨
      0 ≤ status ∧ ControlRead f (encodeFrames after) r r' ∧
        (bioSize r'.bio < bioSize r.bio ∨ r'.bio = r.bio) := by
  rcases h.newResponse hcontrol hmalloc with ⟨hzero, hnew⟩ | ⟨hzero, hne, hnew⟩
  · rw [hnew, rdgWebsocketReadWStream, if_pos hzero] at hread
    obtain ⟨rfl, rfl⟩ := Prod.mk.inj hread
    exact .inr ⟨le_rfl, h.controlRead hk hcontrol hzero, .inr rfl⟩
  · rw [hnew] at hread
    rcases rdgWebsocketReadWStream_of_response
      (r := { r with context := { r.context with
        responseStreamBuffer := some ⟨f.payload.length, f.payload.take k⟩ } })
      hframes hopcode horiginal hwritten hk
      ⟨h.state, .inr ⟨hcontrol, .inr ⟨rfl, hne⟩⟩, h.length, h.content⟩ hcontrol
      hne hbinary hmax hzero rfl hread with hmore | ⟨hstatus, hcontrolRead, hbio⟩
    · exact .inl hmore
    · exact .inr ⟨hstatus, ⟨hcontrolRead.state, hcontrolRead.length, hcontrolRead.content,
        hcontrolRead.response, hcontrolRead.closeSent, hcontrolRead.original,
        hcontrolRead.written⟩, hbio⟩

/-- A short frame is written as it is. -/
lemma bioWriteSize_frame {first second : UInt8} (ext : List UInt8) (key : MaskingKey)
    (masked : List UInt8) (hlen : ext.length + masked.length ≤ 2) :
    bioWriteSize (first :: second :: (ext ++ key.bytes ++ masked)) =
      some (first :: second :: (ext ++ key.bytes ++ masked)) := by
  refine bioWriteSize_eq (List.cons_ne_nil _ _) ?_
  have hkey : key.bytes.length = 4 := rfl
  rw [List.length_cons, List.length_cons, List.length_append, List.length_append, hkey, INT_MAX]
  omega

/-- A pong frame has the payload of the ping. -/
lemma rdgWebsocketReplyPong_spec {payload : List UInt8}
    (hresponse : r.response = if payload = [] then none else some payload)
    (hmax : rdgWebsocketFullLen payload.length ≤ INT_MAX)
    (hmalloc : payload.length ≠ 0 →
      malloc.succeeds (rdgWebsocketFullLen payload.length) = true) :
    ∃ frame, rdgWebsocketReplyPong malloc r r.response = r.write frame ∧
      bioWriteSize frame = some frame ∧
      decodeClientFrame frame = some (0x80 + WebsocketPongOpcode, payload) := by
  rw [hresponse]
  unfold rdgWebsocketReplyPong
  by_cases hnil : payload = []
  · rw [if_pos hnil, hnil]
    exact ⟨_, rfl, bioWriteSize_frame [] r.key [] (by decide),
      decodeClientFrame_masked [] r.key [] (by decide) rfl rfl⟩
  · rw [if_neg hnil]
    have hlen : payload.length ≠ 0 := fun hzero => hnil (List.length_eq_zero_iff.mp hzero)
    have hle : payload.length ≤ INT_MAX := by
      rw [rdgWebsocketFullLen] at hmax
      split_ifs at hmax <;> omega
    obtain ⟨frame, hframe, hdecode⟩ := decodeClientFrame_rdgWebsocketFrame r.key
      (show WebsocketPongOpcode < 128 by decide) hle (hmalloc hlen)
    have hfull := length_rdgWebsocketFrame hframe
    dsimp only
    rw [hframe]
    refine ⟨frame, rfl, bioWriteSize_eq ?_ (hfull.trans_le hmax), hdecode⟩
    rintro rfl
    cases hdecode

/-- The answer to a close frame has the first two bytes of its payload. -/
lemma rdgWebsocketReplyClose_spec {payload : List UInt8}
    (hresponse : r.response = if payload = [] then none else some payload) :
    ∃ frame, rdgWebsocketReplyClose r r.response = r.write frame ∧
      bioWriteSize frame = some frame ∧
      decodeClientFrame frame = some (0x80 + WebsocketPongOpcode,
        if 2 ≤ payload.length then payload.take 2 else []) := by
  rw [hresponse, rdgWebsocketReplyClose]
  obtain ⟨data, hdata, hlen⟩ : ∃ data, (if 2 ≤ payload.length then payload.take 2 else []) = data ∧
      (data.length = 0 ∨ data.length = 2) := by
    refine ⟨_, rfl, ?_⟩
    split
    · right
      rw [List.length_take]
      omega
    · exact .inl rfl
  have hdata' : websocketCloseData (if payload = [] then none else some payload) = data := by
    rw [← hdata]
    by_cases hnil : payload = []
    · rw [if_pos hnil, hnil]
      rfl
    · rw [if_neg hnil, websocketCloseData]
  rw [hdata', hdata]
  refine ⟨_, rfl, bioWriteSize_frame [] r.key _ ?_,
    decodeClientFrame_masked [] r.key data ?_ ?_ ?_⟩
  · rw [length_rdgWebsocketMask, List.length_nil]
    omega
  · rcases hlen with hlen | hlen
    · rw [hlen]
      decide
    · rw [hlen]
      decide
  · rcases hlen with hlen | hlen
    · rw [hlen]
      decide
    · rw [hlen]
      decide
  · rw [if_pos List.length_nil]
    rcases hlen with hlen | hlen
    · rw [hlen]
      decide
    · rw [hlen]
      decide

/-- A control frame is over when its answer was written. -/
lemma ControlRead.answered {before after : List ServerFrame} {f : ServerFrame}
    {r₁ r' : WebsocketReader} (h : ControlRead f (encodeFrames after) r r₁)
    (hframes : frames = before ++ f :: after)
    (horiginal : r.context.fragmentOriginalOpcode = originalAfter (before ++ [f]))
    (hwritten : r.written.map decodeClientFrame = (frameAnswers before).map some)
    (hbinary : f.effective (originalAfter before) ≠ WebsocketBinaryOpcode) {frame : List UInt8}
    {answer : Nat × List UInt8} (hdecode : decodeClientFrame frame = some answer)
    (hanswer : f.answer = some answer) (hbio : r'.bio = r₁.bio)
    (hstate : r'.context.state = r₁.context.state)
    (hresponse : r'.context.responseStreamBuffer = none)
    (horiginal' : r'.context.fragmentOriginalOpcode = r₁.context.fragmentOriginalOpcode)
    (hwritten' : r'.written = r₁.written ++ [frame]) :
    WebsocketAt frames r' (binaryPayload 0 before) := by
  refine .endFrame hframes ?_ (hstate.trans h.state) hresponse
    ((horiginal'.trans h.original).trans horiginal) ?_ ?_
  · rw [hbio, h.content]
  · rw [ServerFrame.binary, if_neg hbinary, List.append_nil]
  · rw [hwritten', h.written, List.map_append, hwritten, frameAnswers_concat, hanswer,
      List.map_append, List.map_singleton, hdecode]
    rfl

/-- A control frame is handled with its own opcode. -/
lemma ServerFrame.effective_of_isControl {f : ServerFrame} (h : f.isControl) (orig : Nat) :
    f.effective orig = f.kind := by
  rw [effective, if_neg]
  rcases h with hping | hclose
  · rw [hping]
    decide
  · rw [hclose]
    decide

lemma ServerFrame.kind_of_effective {f : ServerFrame} {before : List ServerFrame} {opcode : Nat}
    (h : f.effective (originalAfter before) = opcode) (hopcode : 8 ≤ opcode) :
    f.kind = opcode := by
  rw [effective] at h
  split at h
  · have := originalAfter_lt before
    omega
  · exact h

lemma PayloadAt.controlLength {f : ServerFrame} {rest : List UInt8} {k : Nat}
    (h : PayloadAt f r rest k) (hcontrol : f.isControl) :
    r.context.controlLength = f.payload.length := by
  rw [WebsocketContext.controlLength]
  rcases h.response with hnone | ⟨-, ⟨hnone, rfl⟩ | ⟨hsome, -⟩⟩
  · exact absurd hcontrol hnone.1
  · rw [hnone]
    exact h.length
  · rw [hsome]

/-- A control frame that is read and answered. -/
lemma PayloadHandled.control {before after : List ServerFrame} {f : ServerFrame}
    (hreturned : returned ++ s.buffer = binaryPayload 0 before)
    {status : Int} {r₁ : WebsocketReader}
    (hread : r₁.context.payloadLength ≠ 0 ∧ WebsocketAt frames r₁ (binaryPayload 0 before) ∧
        (bioSize r₁.bio < bioSize s.reader.bio ∨
          s.reader.bio = [] ∧ r₁.bio = [] ∧ status < 0) ∨
      0 ≤ status ∧ ControlRead f (encodeFrames after) s.reader r₁ ∧
        (bioSize r₁.bio < bioSize s.reader.bio ∨ r₁.bio = s.reader.bio))
    (answer : WebsocketReader → WebsocketReader) (hbio : (answer r₁).bio = r₁.bio)
    (hstate : (answer r₁).context.state = r₁.context.state)
    (hanswer : ControlRead f (encodeFrames after) s.reader r₁ →
      WebsocketAt frames (answer r₁) (binaryPayload 0 before)) :
    PayloadHandled frames returned s
      (if status < 0 then status else 0) []
      (if status < 0 then r₁ else if r₁.context.payloadLength = 0 then answer r₁ else r₁) := by
  have happend : returned ++ (s.buffer ++ []) = binaryPayload 0 before := by
    rw [List.append_nil, hreturned]
  rcases hread with ⟨hmore, hposition, hless⟩ | ⟨hstatus, hcontrol, hless⟩
  · by_cases hneg : status < 0
    · rw [if_pos hneg, if_pos hneg]
      refine .inl ⟨hneg, ?_, hless.imp_right fun hnil => ⟨hnil.1, hnil.2.1⟩, fun hand =>
        hmore hand.2⟩
      rwa [hreturned]
    · rw [if_neg hneg, if_neg hneg, if_neg hmore]
      refine .inr ⟨rfl, Nat.zero_le _, ?_, .inl ⟨?_, fun hand => hmore hand.2⟩⟩
      · rwa [happend]
      · exact hless.resolve_right fun hnil => hneg hnil.2.2
  · rw [if_neg (by omega), if_neg (by omega), if_pos hcontrol.length]
    refine .inr ⟨rfl, Nat.zero_le _, ?_, ?_⟩
    · rw [happend]
      exact hanswer hcontrol
    · rcases hless with hless | hsame
      · refine .inl ⟨by rwa [hbio], ?_⟩
        rintro ⟨hpayload, -⟩
        rw [hstate, hcontrol.state] at hpayload
        cases hpayload
      · exact .inr ⟨rfl, hbio.trans hsame, hstate.trans hcontrol.state⟩

/-- The reader after a ping. -/
def WebsocketReader.afterPing (malloc : Malloc) (r : WebsocketReader) : WebsocketReader :=
  (if !r.context.closeSent then rdgWebsocketReplyPong malloc r r.response else r).freeResponse

lemma afterPing_bio (r : WebsocketReader) : (r.afterPing malloc).bio = r.bio := by
  rw [WebsocketReader.afterPing]
  split
  · unfold rdgWebsocketReplyPong
    split
    · split
      · rfl
      · rfl
    · rfl
  · rfl

lemma afterPing_state (r : WebsocketReader) :
    (r.afterPing malloc).context.state = r.context.state := by
  rw [WebsocketReader.afterPing]
  split
  · unfold rdgWebsocketReplyPong
    split
    · split
      · rfl
      · rfl
    · rfl
  · rfl

/-- The reader after a close frame. -/
def WebsocketReader.afterClose (r : WebsocketReader) : WebsocketReader :=
  let r := rdgWebsocketReplyClose r r.response
  { r with context := { r.context with closeSent := true } }.freeResponse

lemma rdgWebsocketHandlePayload_ping {size : Nat} {status : Int} {r₁ : WebsocketReader}
    (hopcode : r.context.effectiveOpcode = WebsocketPingOpcode)
    (hread : rdgWebsocketReadWStream (r.newResponse malloc) = (status, r₁)) :
    rdgWebsocketHandlePayload malloc r size =
      (if status < 0 then status else 0, [], if status < 0 then r₁ else
        if r₁.context.payloadLength = 0 then r₁.afterPing malloc else r₁) := by
  rw [rdgWebsocketHandlePayload]
  dsimp only
  rw [hopcode, if_neg (by decide), if_pos rfl, hread]
  dsimp only
  by_cases hneg : status < 0
  · rw [if_pos hneg, if_pos hneg, if_pos hneg]
  · rw [if_neg hneg, if_neg hneg, if_neg hneg]
    by_cases hzero : r₁.context.payloadLength = 0
    · rw [if_pos hzero, if_pos hzero]
      rfl
    · rw [if_neg hzero, if_neg hzero]

lemma rdgWebsocketHandlePayload_close {size : Nat} {status : Int} {r₁ : WebsocketReader}
    (hopcode : r.context.effectiveOpcode = WebsocketCloseOpcode)
    (hread : rdgWebsocketReadWStream (r.newResponse malloc) = (status, r₁)) :
    rdgWebsocketHandlePayload malloc r size =
      (if status < 0 then status else 0, [], if status < 0 then r₁ else
        if r₁.context.payloadLength = 0 then r₁.afterClose else r₁) := by
  rw [rdgWebsocketHandlePayload]
  dsimp only
  rw [hopcode, if_neg (by decide), if_neg (by decide), if_pos rfl, hread]
  dsimp only
  by_cases hneg : status < 0
  · rw [if_pos hneg, if_pos hneg, if_pos hneg]
  · rw [if_neg hneg, if_neg hneg, if_neg hneg]
    by_cases hzero : r₁.context.payloadLength = 0
    · rw [if_pos hzero, if_pos hzero]
      rfl
    · rw [if_neg hzero, if_neg hzero]

lemma rdgWebsocketHandlePayload_discard {size : Nat} {status : Int} {r₁ : WebsocketReader}
    (hbinary : r.context.effectiveOpcode ≠ WebsocketBinaryOpcode)
    (hping : r.context.effectiveOpcode ≠ WebsocketPingOpcode)
    (hclose : r.context.effectiveOpcode ≠ WebsocketCloseOpcode)
    (hread : rdgWebsocketReadDiscard r = (status, r₁)) :
    rdgWebsocketHandlePayload malloc r size =
      (if status < 0 then status else 0, [], r₁) := by
  rw [rdgWebsocketHandlePayload]
  dsimp only
  rw [if_neg hbinary, if_neg hping, if_neg hclose, hread]
  dsimp only
  by_cases hneg : status < 0
  · rw [if_pos hneg, if_pos hneg]
  · rw [if_neg hneg, if_neg hneg]

lemma write_written (r : WebsocketReader) {frame : List UInt8}
    (h : bioWriteSize frame = some frame) : (r.write frame).written = r.written ++ [frame] := by
  rw [WebsocketReader.write, h]
  rfl

/-- The round in the payload of a control frame. -/
lemma websocketRound_control (hsize : 0 < s.size) (hcount : s.buffer.length ≤ INT_MAX)
    {before after : List ServerFrame} {f : ServerFrame} (hframes : frames = before ++ f :: after)
    (hopcode : s.reader.context.opcode = f.opcode.toNat)
    (horiginal : s.reader.context.fragmentOriginalOpcode = originalAfter (before ++ [f]))
    (hwritten : s.reader.written.map decodeClientFrame = (frameAnswers before).map some)
    {k : Nat} (hk : k ≤ f.payload.length) (h : PayloadAt f s.reader (encodeFrames after) k)
    (hreturned : returned ++ s.buffer =
      binaryPayload 0 before ++ f.received (originalAfter before) k)
    (havoids : WebsocketAvoids malloc s) (hcontrol : f.isControl) :
    WebsocketRoundEnds malloc frames returned s := by
  have heffective := effectiveOpcode_eq hopcode horiginal
  rw [f.effective_of_isControl hcontrol] at heffective
  have hbinary : f.effective (originalAfter before) ≠ WebsocketBinaryOpcode := by
    rw [f.effective_of_isControl hcontrol]
    rcases hcontrol with hping | hclose
    · rw [hping]
      decide
    · rw [hclose]
      decide
  have hreturned' : returned ++ s.buffer = binaryPayload 0 before := by
    rw [hreturned, ServerFrame.received, if_neg hbinary, List.append_nil]
  have hmeets := havoids h.state
  rw [heffective, ← f.effective_of_isControl hcontrol, if_neg hbinary,
    f.effective_of_isControl hcontrol, if_pos (by exact hcontrol), h.controlLength hcontrol]
    at hmeets
  obtain ⟨hmax, hmalloc, hpong⟩ := hmeets
  rcases hread : rdgWebsocketReadWStream (s.reader.newResponse malloc) with ⟨status, r₁⟩
  have hspec := rdgWebsocketReadWStream_spec hframes hopcode horiginal hwritten hk h hcontrol
    hbinary hmax hmalloc hread
  rcases hcontrol with hping | hclose
  · refine websocketRound_payload hsize h.state
      (rdgWebsocketHandlePayload_ping (heffective.trans hping) hread) hcount
      (PayloadHandled.control hreturned' hspec (WebsocketReader.afterPing malloc)
        (afterPing_bio r₁) (afterPing_state r₁) ?_)
    intro hcontrolRead
    obtain ⟨hclosed, hfull, hmalloc'⟩ := hpong hping
    obtain ⟨frame, hreply, hwrite, hdecode⟩ :=
      rdgWebsocketReplyPong_spec hcontrolRead.response hfull hmalloc'
    have hafter : r₁.afterPing malloc = (r₁.write frame).freeResponse := by
      rw [WebsocketReader.afterPing, hcontrolRead.closeSent, hclosed, hreply]
      rfl
    rw [hafter]
    refine hcontrolRead.answered hframes horiginal hwritten hbinary hdecode ?_ rfl rfl rfl rfl
      (write_written r₁ hwrite)
    rw [ServerFrame.answer, if_pos hping]
  · refine websocketRound_payload hsize h.state
      (rdgWebsocketHandlePayload_close (heffective.trans hclose) hread) hcount
      (PayloadHandled.control hreturned' hspec WebsocketReader.afterClose rfl rfl ?_)
    intro hcontrolRead
    obtain ⟨frame, hreply, hwrite, hdecode⟩ := rdgWebsocketReplyClose_spec hcontrolRead.response
    rw [WebsocketReader.afterClose, hreply]
    refine hcontrolRead.answered hframes horiginal hwritten hbinary hdecode ?_ rfl rfl rfl rfl
      (write_written r₁ hwrite)
    rw [ServerFrame.answer, if_neg (by rw [hclose]; decide), if_pos hclose]

/-- One round, wherever the reader is. -/
lemma WebsocketAt.round (hposition : WebsocketAt frames s.reader (returned ++ s.buffer))
    (hsize : 0 < s.size) (hcount : s.buffer.length ≤ INT_MAX)
    (havoids : WebsocketAvoids malloc s) : WebsocketRoundEnds malloc frames returned s := by
  cases hposition with
  | boundary before after hframes hcontent hstate hresponse horiginal hreturned hwritten =>
    exact websocketRound_boundary hsize hcount hframes hcontent hstate hresponse horiginal hreturned
      hwritten
  | within before f after hframes hopcode horiginal hwritten part hinside hreturned =>
    cases hinside with
    | length hstate hresponse hcontent =>
      rw [List.append_nil] at hreturned
      exact websocketRound_length hsize hcount hframes hopcode horiginal hwritten hstate hresponse
        hcontent hreturned
    | extended p hp h =>
      exact websocketRound_extended hsize hcount hframes hopcode horiginal hwritten hp h hreturned
    | payload k hk h =>
      by_cases hcontrol : f.isControl
      · exact websocketRound_control hsize hcount hframes hopcode horiginal hwritten hk h hreturned
          havoids hcontrol
      have heffective := effectiveOpcode_eq hopcode horiginal
      have hmeets := havoids h.state
      rw [heffective] at hmeets
      by_cases hbinary : f.effective (originalAfter before) = WebsocketBinaryOpcode
      · rw [if_pos hbinary] at hmeets
        have hhandle : rdgWebsocketHandlePayload malloc s.reader s.size =
            rdgWebsocketReadData s.reader s.size := by
          rw [rdgWebsocketHandlePayload, heffective, if_pos hbinary]
        obtain ⟨hhandled, hcount'⟩ := rdgWebsocketReadData_handled hsize hcount hmeets.1 hmeets.2
          hframes hopcode horiginal hwritten hk h hreturned hcontrol hbinary
        exact websocketRound_payload hsize h.state hhandle hcount' hhandled
      · have hping : f.effective (originalAfter before) ≠ WebsocketPingOpcode := fun heq =>
          hcontrol (.inl (f.kind_of_effective heq (by decide)))
        have hclose : f.effective (originalAfter before) ≠ WebsocketCloseOpcode := fun heq =>
          hcontrol (.inr (f.kind_of_effective heq (by decide)))
        rw [if_neg hbinary, if_neg (not_or.mpr ⟨hping, hclose⟩)] at hmeets
        rw [← heffective] at hbinary hping hclose
        rcases hread : rdgWebsocketReadDiscard s.reader with ⟨status, r₁⟩
        refine websocketRound_payload hsize h.state
          (rdgWebsocketHandlePayload_discard hbinary hping hclose hread) hcount ?_
        rw [heffective] at hbinary
        exact rdgWebsocketReadDiscard_handled hframes hopcode horiginal hwritten hk h hreturned
          hcontrol hbinary hmeets hread

/-- A call returns, and the reader is at its position after it. -/
lemma WebsocketAt.read (hposition : WebsocketAt frames r returned) {size : Nat} (hsize : 0 < size)
    (hmeets : AlongLoop (rdgWebsocketRound malloc) (WebsocketAvoids malloc) (rdgWebsocketFuel r)
      ⟨r, [], size⟩) :
    ∃ result, rdgWebsocketRead malloc r size = some result ∧
      WebsocketReturns frames returned r.bio size result := by
  -- the invariant of the loop: where the reader is, and what is left of the buffer
  have hround : ∀ s : WebsocketCall,
      (WebsocketAt frames s.reader (returned ++ s.buffer) ∧ 0 < s.size ∧
        s.buffer.length + s.size = size ∧ s.buffer.length ≤ INT_MAX ∧
        bioSize s.reader.bio ≤ bioSize r.bio) →
      WebsocketAvoids malloc s →
      (rdgWebsocketRound malloc s).Ends
        (fun s' => (WebsocketAt frames s'.reader (returned ++ s'.buffer) ∧ 0 < s'.size ∧
          s'.buffer.length + s'.size = size ∧ s'.buffer.length ≤ INT_MAX ∧
          bioSize s'.reader.bio ≤ bioSize r.bio) ∧
          s'.measure < s.measure)
        (WebsocketReturns frames returned r.bio size) := by
    rintro s ⟨hat, hpos, hlen, hcount, hle⟩ havoids
    have hends := hat.round hpos hcount havoids
    rw [WebsocketRoundEnds] at hends
    cases hr : rdgWebsocketRound malloc s with
    | next s' =>
      rw [hr] at hends
      exact ⟨⟨hends.position, hends.size_pos, hends.size_eq.trans hlen, hends.count_le,
        hends.bioSize_le.trans hle⟩, hends.measure_lt⟩
    | done result =>
      rw [hr] at hends
      refine ⟨hends.position, hends.status, hends.length_le.trans_eq hlen, ?_, hends.settled⟩
      rcases hends.bio_lt with hlt | ⟨hnil, hnil'⟩
      · exact .inl (hlt.trans_le hle)
      · rw [hnil']
        by_cases hr : r.bio = []
        · exact .inr ⟨hr, rfl⟩
        · exact .inl (bioSize_pos hr)
  refine loop_spec WebsocketCall.measure hround ⟨?_, hsize, Nat.zero_add size, Nat.zero_le _, le_rfl⟩
    hmeets ?_
  · rwa [List.append_nil]
  · rw [WebsocketCall.measure, rdgWebsocketFuel]
    dsimp only
    split
    · exact Nat.lt_succ_self _
    · omega

end Rounds

end FreeRdp
