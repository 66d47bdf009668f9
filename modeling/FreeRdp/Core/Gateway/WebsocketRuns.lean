import FreeRdp.Core.Gateway.WebsocketRead

/-!
# Runs of websocket reads

Successive calls of `rdg_websocket_read`, and the bytes that they have returned.
-/

namespace FreeRdp

/-- A reader, and what the calls so far have returned. -/
structure WebsocketRun where
  reader : WebsocketReader
  returned : List UInt8

/-- A new context on a BIO. -/
def WebsocketRun.start (bio : List BioEvent) (random : Nat → UInt8) : WebsocketRun :=
  ⟨⟨.new, bio, [], random⟩, []⟩

/-- A call with a buffer of the given size. -/
def websocketStep (malloc : Malloc) (s : WebsocketRun) (size : Nat) : WebsocketRun :=
  match rdgWebsocketRead malloc s.reader size with
  | some (_, bytes, reader) => ⟨reader, s.returned ++ bytes⟩
  | none => s

/-- The condition on a call: its buffer is not empty, and no round does what is to be avoided. -/
def WebsocketMeets (malloc : Malloc) (s : WebsocketRun) (size : Nat) : Prop :=
  0 < size ∧ AlongLoop (rdgWebsocketRound malloc) (WebsocketAvoids malloc)
    (rdgWebsocketFuel s.reader) ⟨s.reader, [], size⟩

instance (malloc : Malloc) (s : WebsocketRun) (size : Nat) :
    Decidable (WebsocketMeets malloc s size) := by
  unfold WebsocketMeets
  infer_instance

/-- A call returns, and what was returned and answered is what the frames up to here say. -/
def WebsocketExact (malloc : Malloc) (frames : List ServerFrame) (s : WebsocketRun) (size : Nat) :
    Prop :=
  ∃ result, rdgWebsocketRead malloc s.reader size = some result ∧
    WebsocketReturns frames s.returned s.reader.bio size result

/-- All frames were read: everything is returned and answered. -/
structure WebsocketFinished (frames : List ServerFrame) (s : WebsocketRun) : Prop where
  returned : s.returned = binaryPayload 0 frames
  answers : s.reader.written.map decodeClientFrame = (frameAnswers frames).map some
  state : s.reader.context.state = .opcodeAndFin
  response : s.reader.context.responseStreamBuffer = none

variable {malloc : Malloc} {frames : List ServerFrame} {s : WebsocketRun}

lemma encodeFrames_ne_nil (f : ServerFrame) (fs : List ServerFrame) :
    encodeFrames (f :: fs) ≠ [] := by
  rw [encodeFrames_cons_bytes]
  exact List.cons_ne_nil _ _

/-- A reader with nothing left to read is behind the last frame. -/
lemma WebsocketAt.finished (h : WebsocketAt frames s.reader s.returned)
    (hcontent : bioContent s.reader.bio = [])
    (hsettled : ¬ (s.reader.context.state = .payload ∧ s.reader.context.payloadLength = 0)) :
    WebsocketFinished frames s := by
  cases h with
  | boundary before after hframes hcontent' hstate hresponse horiginal hreturned hwritten =>
    cases after with
    | nil =>
      rw [List.append_nil] at hframes
      subst hframes
      exact ⟨hreturned, hwritten, hstate, hresponse⟩
    | cons f after => exact absurd (hcontent'.symm.trans hcontent) (encodeFrames_ne_nil f after)
  | within before f after hframes hopcode horiginal hwritten part hinside hreturned =>
    cases hinside with
    | length hstate hresponse hcontent' =>
      rw [hcontent] at hcontent'
      cases hcontent'
    | extended p hp h =>
      have hlen := congrArg List.length h.content
      rw [hcontent, List.length_append, List.length_drop, f.length_extendedLength,
        List.length_nil] at hlen
      omega
    | payload k hk h =>
      have hlen := congrArg List.length h.content
      rw [hcontent, List.length_append, List.length_drop, List.length_nil] at hlen
      exact absurd ⟨h.state, h.length.trans (by omega)⟩ hsettled

/-- What holds between two calls. -/
structure WebsocketRun.Valid (frames : List ServerFrame) (s : WebsocketRun) : Prop where
  position : WebsocketAt frames s.reader s.returned
  settled : ¬ (s.reader.context.state = .payload ∧ s.reader.context.payloadLength = 0)

/-- One call. -/
lemma WebsocketRun.Valid.step (h : s.Valid frames) {size : Nat}
    (hmeets : WebsocketMeets malloc s size) :
    WebsocketExact malloc frames s size ∧ (websocketStep malloc s size).Valid frames ∧
      bioSize (websocketStep malloc s size).reader.bio ≤ bioSize s.reader.bio - 1 := by
  obtain ⟨⟨status, bytes, reader⟩, hread, hreturns⟩ := h.position.read hmeets.1 hmeets.2
  refine ⟨⟨_, hread, hreturns⟩, ?_⟩
  rw [websocketStep, hread]
  refine ⟨⟨hreturns.position, hreturns.settled⟩, ?_⟩
  rcases hreturns.bio_lt with hlt | ⟨hnil, hnil'⟩
  · exact Nat.le_sub_one_of_lt hlt
  · dsimp only at hnil' ⊢
    rw [hnil']
    exact Nat.zero_le _

/-- Calls, each of which reads something, come to the end. -/
lemma WebsocketRun.Valid.run (h : s.Valid frames) {sizes : List Nat}
    (hmeets : AlongRun (websocketStep malloc) (WebsocketMeets malloc) s sizes) :
    (sizes.foldl (websocketStep malloc) s).Valid frames ∧
      bioSize (sizes.foldl (websocketStep malloc) s).reader.bio ≤
        bioSize s.reader.bio - sizes.length := by
  induction sizes generalizing s with
  | nil => exact ⟨h, le_rfl⟩
  | cons size sizes ih =>
    obtain ⟨-, hvalid, hless⟩ := h.step hmeets.1
    obtain ⟨hvalid', hless'⟩ := ih hvalid hmeets.2
    refine ⟨hvalid', hless'.trans ?_⟩
    rw [List.length_cons]
    omega

/-- In every run that meets the condition, each call returns what comes next in the binary messages,
with the answers to the control frames before it. With enough calls that is everything. -/
theorem rdgWebsocketRead_frames {bio : List BioEvent} (random : Nat → UInt8)
    (hbio : bioContent bio = encodeFrames frames) {sizes : List Nat}
    (hmeets : AlongRun (websocketStep malloc) (WebsocketMeets malloc)
      (.start bio random) sizes) :
    AlongRun (websocketStep malloc) (WebsocketExact malloc frames) (.start bio random) sizes ∧
      (bioSize bio ≤ sizes.length →
        WebsocketFinished frames (sizes.foldl (websocketStep malloc) (.start bio random))) := by
  have hstart : (WebsocketRun.start bio random).Valid frames :=
    ⟨.boundary [] frames rfl hbio rfl rfl rfl rfl rfl, fun hand => by cases hand.1⟩
  refine ⟨hmeets.imp (fun s size h hmeets => ?_) hstart, fun hlen => ?_⟩
  · obtain ⟨hexact, hvalid, -⟩ := h.step hmeets
    exact ⟨hexact, hvalid⟩
  · obtain ⟨hvalid, hless⟩ := hstart.run hmeets
    refine hvalid.position.finished (bioContent_of_size_eq_zero ?_) hvalid.settled
    have hzero : bioSize (WebsocketRun.start bio random).reader.bio - sizes.length = 0 :=
      Nat.sub_eq_zero_of_le hlen
    exact Nat.le_zero.mp (hless.trans_eq hzero)

/-- A ping, a binary message in two frames and a pong between them, which is dropped. -/
def pingedFrames : List ServerFrame :=
  [⟨0x89, .seven, [1, 2], by decide⟩, ⟨0x02, .seven, [3, 4, 5], by decide⟩,
    ⟨0x8a, .seven, [6], by decide⟩, ⟨0x80, .sixteen, [7], by decide⟩]

/-- The pieces that `pingedFrames` arrive in. -/
def pingedBio : List BioEvent :=
  [.data 0x89 [2, 1], .noData 1, .data 2 [0x02, 3, 3], .data 4 [5, 0x8a, 1, 6], .noData 1,
    .data 0x80 [126, 0], .noData 1, .data 1 [7]]

/-- Calls with small buffers, on frames whose dropped payload is the end of a piece. -/
theorem rdgWebsocketRead_frames_pinged :
    AlongRun (websocketStep mallocAll) (WebsocketExact mallocAll pingedFrames)
        (.start pingedBio fun _ => 9) (List.replicate 17 2) ∧
      (bioSize pingedBio ≤ (List.replicate 17 2).length → WebsocketFinished pingedFrames
        ((List.replicate 17 2).foldl (websocketStep mallocAll) (.start pingedBio fun _ => 9))) :=
  rdgWebsocketRead_frames (fun _ => 9) (by decide) (by decide +kernel)

/-- A text frame that is dropped, and a binary frame. -/
def droppedFrames : List ServerFrame :=
  [⟨0x81, .seven, [1], by decide⟩, ⟨0x82, .seven, [2], by decide⟩]

/-- When both arrive in one piece, the read that skips the text frame takes the binary frame with it,
and the length wraps around. -/
theorem rdgWebsocketRead_swallowed :
    let bio := [BioEvent.data 0x81 [1, 1, 0x82, 1, 2]]
    let s := (List.replicate 8 1).foldl (websocketStep mallocAll) (.start bio fun _ => 0)
    bioContent bio = encodeFrames droppedFrames ∧ bioContent s.reader.bio = [] ∧
      s.returned ≠ binaryPayload 0 droppedFrames ∧
      s.reader.context.payloadLength = 2 ^ 64 - 3 := by
  decide +kernel

end FreeRdp
