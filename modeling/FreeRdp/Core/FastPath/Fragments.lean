import FreeRdp.Core.FastPath.Headers

/-!
# One fragment across the channel

What the sender does to a fragment (compression, update header, signature, encryption, PDU header)
is undone by the receiver step by step, so that its fragment state machine sees the bytes the
sender cut off. The codec and the ciphers only have to undo themselves.
-/

namespace FreeRdp

variable {σ ρ κ τ : Type*}

/-- The ciphers round-trip: with keys in `Sync` the receiver accepts the signature and gets the
data back. A signature has eight bytes and encryption keeps the length. -/
structure FastPathSecurity.RoundTrips (security : FastPathSecurity κ τ) (Sync : κ → τ → Prop) :
    Prop where
  unprotect : ∀ {k t salted data pad signature cipher k'}, Sync k t → pad ≤ data.length →
    security.protect k salted data pad = (signature, cipher, k') →
    signature.length = 8 ∧ cipher.length = data.length ∧
      ∃ t', security.unprotect t salted cipher pad signature = (some data, t') ∧ Sync k' t'

section Channel

variable {codec : BulkCodec σ ρ} {security : FastPathSecurity κ τ} {settings : FastPathSettings}
  {handler : Nat → List UInt8 → Bool} {SyncBulk : σ → ρ → Prop} {SyncKeys : κ → τ → Prop}

/-! ### Encryption -/

/-- A stream with its unread bytes replaced. -/
lemma WStream.unread_replace (s : WStream) (rest : List UInt8) (h : s.pos ≤ s.buffer.length) :
    (WStream.mk (s.buffer.take s.pos ++ rest) s.pos).unread = rest := by
  simp [WStream.unread, h]

lemma WStream.pos_le_of_unread {s : WStream} (h : 0 < s.unread.length) :
    s.pos ≤ s.buffer.length := by
  simp only [WStream.unread, List.length_drop] at h
  omega

lemma fastpathPad_lt (settings : FastPathSettings) (n : Nat) : fastpathPad settings n < 8 := by
  simp only [fastpathPad]
  split
  · split <;> omega
  · omega

/-- `rdp_decrypt` without FIPS. -/
lemma rdpDecrypt_write (hsec : security.RoundTrips SyncKeys) (hfips : settings.fips = false)
    {keys : κ} {t : τ} (hkeys : SyncKeys keys t) {salted : Bool} {data signature cipher : List UInt8}
    {keys' : κ} (hprotect : security.protect keys salted data 0 = (signature, cipher, keys'))
    (hpos : 0 < data.length) {s : WStream} (hs : s.unread = signature ++ cipher) :
    ∃ s' t', rdpDecrypt security settings t salted (8 + data.length) s = (some s', t') ∧
      s'.unread = data ∧ SyncKeys keys' t' := by
  obtain ⟨hsig, hcipher, t', hunprotect, hsync⟩ := hsec.unprotect hkeys (Nat.zero_le _) hprotect
  have hrem : ¬s.remainingLength < 8 := by
    rw [WStream.remainingLength_eq, hs, List.length_append]
    omega
  have hunread := WStream.unread_seek_append hs hsig
  have htake : cipher.take (8 + data.length - 8) = cipher := by
    rw [Nat.add_sub_cancel_left, ← hcipher, List.take_length]
  have hdrop : cipher.drop (8 + data.length - 8) = [] := by
    rw [Nat.add_sub_cancel_left, ← hcipher, List.drop_length]
  have hlen : ¬8 + data.length ≤ 8 := by omega
  refine ⟨⟨(s.seek 8).buffer.take (s.seek 8).pos ++ data, (s.seek 8).pos⟩, t', ?_, ?_, hsync⟩
  · simp only [rdpDecrypt, hfips, Bool.false_eq_true, if_false, if_neg hrem,
      WStream.read_of_unread hs hsig, if_neg hlen, hunread, htake, hdrop, hunprotect,
      List.append_nil]
  · refine WStream.unread_replace _ _ (WStream.pos_le_of_unread ?_)
    rw [hunread]
    omega

/-- `rdp_decrypt` with FIPS: the padding is cut off again. -/
lemma rdpDecrypt_write_fips (hsec : security.RoundTrips SyncKeys) (hfips : settings.fips = true)
    {keys : κ} {t : τ} (hkeys : SyncKeys keys t) {salted : Bool} {data signature cipher : List UInt8}
    {pad : Nat} (hpad : pad < 8) {keys' : κ}
    (hprotect : security.protect keys salted (data ++ List.replicate pad 0) pad =
      (signature, cipher, keys'))
    (hpos : 0 < data.length) {s : WStream}
    (hs : s.unread = [0x10, 0x00, 0x01, UInt8.ofNat pad] ++ signature ++ cipher) :
    ∃ s' t', rdpDecrypt security settings t salted (12 + (data.length + pad)) s = (some s', t') ∧
      s'.unread = data ∧ SyncKeys keys' t' := by
  obtain ⟨hsig, hcipher, t', hunprotect, hsync⟩ := hsec.unprotect hkeys (by simp) hprotect
  rw [List.length_append, List.length_replicate] at hcipher
  have hrem : ¬s.remainingLength < 12 := by
    rw [WStream.remainingLength_eq, hs]
    simp only [List.length_append, List.length_cons, List.length_nil]
    omega
  simp only [List.cons_append, List.nil_append] at hs
  have h2 : (s.seek 2).unread = 0x01 :: UInt8.ofNat pad :: (signature ++ cipher) := by simp [hs]
  have h3 := WStream.unread_seek_one h2
  have h4 := WStream.unread_seek_one h3
  have h12 := WStream.unread_seek_append h4 hsig
  have hpad' : (UInt8.ofNat pad).toNat = pad := toNat_ofNat_of_lt (by omega)
  have hlen : ¬(12 + (data.length + pad) ≤ 12 ∨ 12 + (data.length + pad) - 12 ≤ pad) := by omega
  have htake : cipher.take (12 + (data.length + pad) - 12) = cipher := by
    rw [Nat.add_sub_cancel_left, ← hcipher, List.take_length]
  have hdrop : cipher.drop (12 + (data.length + pad) - 12) = [] := by
    rw [Nat.add_sub_cancel_left, ← hcipher, List.drop_length]
  have hcut : (data ++ List.replicate pad (0 : UInt8)).take
      ((data ++ List.replicate pad (0 : UInt8)).length - pad) = data := by
    simp
  obtain ⟨body, hbody⟩ : ∃ body, (((s.seek 2).seek 1).seek 1).seek 8 = body := ⟨_, rfl⟩
  rw [hbody] at h12
  refine ⟨⟨body.buffer.take body.pos ++ data, body.pos⟩, t', ?_, ?_, hsync⟩
  · simp only [rdpDecrypt, hfips, if_true, if_neg hrem, WStream.readUInt16_of_unread hs,
      WStream.readUInt8_of_unread h2, WStream.readUInt8_of_unread h3,
      WStream.read_of_unread h4 hsig, hpad', if_neg hlen, hbody, h12, htake, hdrop, hunprotect,
      List.append_nil, hcut]
  · refine WStream.unread_replace _ _ (WStream.pos_le_of_unread ?_)
    rw [h12]
    omega

lemma fastpathSecFlags_crypt (h : settings.doCrypt = true) :
    fastpathSecFlags settings < 4 ∧ fastpathSecFlags settings &&& FASTPATH_OUTPUT_ENCRYPTED ≠ 0 ∧
      decide (fastpathSecFlags settings &&& FASTPATH_OUTPUT_SECURE_CHECKSUM ≠ 0) =
        settings.doSecureChecksum := by
  rw [fastpathSecFlags, if_pos h]
  cases settings.doSecureChecksum <;> decide

/-- `rdp_recv_fastpath_pdu` of an encrypted PDU, when `rdp_decrypt` undoes the encryption. -/
lemma rdpRecvFastpathPdu_encrypted {fp : FastPathReceiver ρ τ} {secFlags n : Nat}
    {rest : List UInt8} (hflags : secFlags < 4) (henc : secFlags &&& FASTPATH_OUTPUT_ENCRYPTED ≠ 0)
    (hrest : rest.length = n) (hpos : 0 < n) (hn : n + 3 < 2 ^ 15) {P : WStream → τ → Prop}
    (hdec : ∀ s : WStream, s.unread = rest → ∃ s' t,
      rdpDecrypt security settings fp.keys
        (secFlags &&& FASTPATH_OUTPUT_SECURE_CHECKSUM ≠ 0) n s = (some s', t) ∧ P s' t) :
    ∃ s t, rdpRecvFastpathPdu codec security settings handler fp
        (fastpathWriteUpdatePduHeader secFlags (n + 3) ++ rest) =
          fastpathRecvUpdates codec settings handler { fp with keys := t } s ∧ P s t := by
  obtain ⟨s, hread, hs⟩ := fastpathReadHeaderRdp_write rest hflags (by omega) hn
  obtain ⟨s', t, hdec, hP⟩ := hdec s hs
  have hrem : ¬(n = 0 ∨ n > s.remainingLength) := by
    rw [WStream.remainingLength_eq, hs]
    omega
  refine ⟨s', t, ?_, hP⟩
  simp only [rdpRecvFastpathPdu, hread, Nat.add_sub_cancel, if_neg hrem, if_pos henc, hdec]

/-- What `fastpath_write_update_pdu_header` and the encryption make of `data` is taken apart
again. -/
lemma rdpRecvFastpathPdu_write (codec : BulkCodec σ ρ) (settings : FastPathSettings)
    (handler : Nat → List UInt8 → Bool) (hsec : security.RoundTrips SyncKeys)
    {fp : FastPathReceiver ρ τ}
    {keys : κ} (hkeys : SyncKeys keys fp.keys) {data : List UInt8} (hpos : 0 < data.length)
    (hlen : data.length < 2 ^ 14) :
    ∃ s t, rdpRecvFastpathPdu codec security settings handler fp
        (fastpathWritePdu security settings keys data).1 =
          fastpathRecvUpdates codec settings handler { fp with keys := t } s ∧
      s.unread = data ∧ SyncKeys (fastpathWritePdu security settings keys data).2 t := by
  have hpad := fastpathPad_lt settings data.length
  by_cases hcrypt : settings.doCrypt = true
  · obtain ⟨hflags, henc, hsum⟩ := fastpathSecFlags_crypt hcrypt
    have hne : fastpathSecFlags settings ≠ 0 := fun h => by simp [h] at henc
    obtain ⟨pad, hpadeq⟩ : ∃ pad, fastpathPad settings data.length = pad := ⟨_, rfl⟩
    rcases hprotect : security.protect keys settings.doSecureChecksum
      (data ++ List.replicate pad 0) pad with ⟨signature, cipher, keys'⟩
    obtain ⟨hsig, hcipher, -⟩ := hsec.unprotect hkeys (by simp) hprotect
    rw [List.length_append, List.length_replicate] at hcipher
    rw [hpadeq] at hpad
    simp only [fastpathWritePdu, hpadeq, if_pos hcrypt, hprotect, List.append_assoc]
    by_cases hfips : settings.fips = true
    · -- FIPS: four bytes of information and the padding
      rw [fastpathGetUpdatePduHeaderSize, if_pos hne, if_pos hfips, if_pos hfips,
        show data.length + 15 + pad = 12 + (data.length + pad) + 3 by omega]
      refine rdpRecvFastpathPdu_encrypted hflags henc ?_ (by omega) (by omega) fun s hs => ?_
      · simp only [List.length_append, List.length_cons, List.length_nil]
        omega
      · rw [hsum]
        exact rdpDecrypt_write_fips hsec hfips hkeys hpad hprotect hpos (by simpa using hs)
    · have hpad0 : pad = 0 := by simp [← hpadeq, fastpathPad, hfips]
      subst hpad0
      rw [fastpathGetUpdatePduHeaderSize, if_pos hne, if_neg hfips, if_neg hfips,
        show data.length + 11 + 0 = 8 + data.length + 3 by omega, List.nil_append]
      refine rdpRecvFastpathPdu_encrypted hflags henc ?_ (by omega) (by omega) fun s hs => ?_
      · rw [List.length_append]
        omega
      · rw [List.replicate_zero, List.append_nil] at hprotect
        rw [hsum]
        exact rdpDecrypt_write hsec (by simpa using hfips) hkeys hprotect hpos hs
  · have hflags : fastpathSecFlags settings = 0 := by rw [fastpathSecFlags, if_neg hcrypt]
    have hpad0 : fastpathPad settings data.length = 0 := by simp [fastpathPad, hcrypt]
    obtain ⟨s, hread, hs⟩ := fastpathReadHeaderRdp_write data (show 0 < 4 by omega)
      (show 3 ≤ data.length + 3 by omega) (by omega)
    have hrem : ¬(data.length + 3 - 3 = 0 ∨ data.length + 3 - 3 > s.remainingLength) := by
      rw [WStream.remainingLength_eq, hs]
      omega
    refine ⟨s, fp.keys, ?_, hs, ?_⟩
    · simp only [fastpathWritePdu, if_neg hcrypt, fastpathGetUpdatePduHeaderSize, hflags, hpad0,
        Nat.add_zero, ne_eq, not_true_eq_false, if_false]
      simp only [rdpRecvFastpathPdu, hread, if_neg hrem, Nat.zero_and, ne_eq, not_true_eq_false,
        if_false]
    · simpa only [fastpathWritePdu, if_neg hcrypt] using hkeys

/-! ### Compression -/

/-- Whether or not a fragment was compressed, its header is valid and it decompresses to what it
was made of. -/
lemma fastpathCompressFragment_spec (settings : FastPathSettings)
    (hcodec : codec.RoundTrips SyncBulk) (compress : Bool)
    {context : σ} {r : ρ} (hsync : SyncBulk context r) (src : List UInt8) :
    ∃ compression flags dst context' r',
      fastpathCompressFragment codec settings compress context src =
        (compression, flags, dst, context') ∧
      (compression = 0 ∧ flags = 0 ∨
        compression = FASTPATH_OUTPUT_COMPRESSION_USED ∧ flags < 256) ∧
      dst.length ≤ src.length + 2 ∧ bulkDecompress codec r dst flags = (some src, r') ∧
      SyncBulk context' r' := by
  have hplain : bulkDecompress codec r src 0 = (some src, r) := by simp [bulkDecompress]
  cases compress with
  | false => exact ⟨0, 0, src, context, r, rfl, .inl ⟨rfl, rfl⟩, by omega, hplain, hsync⟩
  | true =>
    have hbulk := hcodec.bulk settings.compressionLevel hsync src
    simp only [fastpathCompressFragment, if_true]
    rcases hc : bulkCompress codec settings.compressionLevel context src with
      ⟨_ | ⟨dst, flags⟩, context'⟩ <;> rw [hc] at hbulk
    · exact ⟨0, 0, src, context', r, rfl, .inl ⟨rfl, rfl⟩, by omega, hplain, hbulk⟩
    · by_cases hflags : flags = 0
      · subst hflags
        exact ⟨0, 0, src, context', r, rfl, .inl ⟨rfl, rfl⟩, by omega, hplain, by simpa using hbulk⟩
      · simp only [if_neg hflags] at hbulk
        obtain ⟨hlt, hdst, r', hdec, hsync'⟩ := hbulk
        exact ⟨_, flags, dst, context', r', if_pos hflags, .inr ⟨rfl, hlt⟩, hdst, hdec, hsync'⟩

/-- A fragment reaches the fragment state machine of the receiver. -/
lemma fastpathSendFragment_received (settings : FastPathSettings)
    (handler : Nat → List UInt8 → Bool) (hcodec : codec.RoundTrips SyncBulk)
    (hsec : security.RoundTrips SyncKeys) {fp : FastPathReceiver ρ τ} {context : σ} {keys : κ}
    (hsync : SyncBulk context fp.bulk) (hkeys : SyncKeys keys fp.keys) {updateCode : Nat}
    (hcode : updateCode < 16) (compress : Bool) (fragmentation : FastPathFragment)
    {src : List UInt8} (hsrc : src.length ≤ FASTPATH_MAX_PACKET_SIZE - 20) :
    ∃ pdu context' keys' r t,
      fastpathSendFragment codec security settings updateCode compress fragmentation context keys
        src = (pdu, context', keys') ∧
      rdpRecvFastpathPdu codec security settings handler fp pdu =
        fastpathRecvFragment settings handler updateCode fragmentation
          { fp with bulk := r, keys := t, updateData := fp.updateData ++ src } ∧
      SyncBulk context' r ∧ SyncKeys keys' t := by
  simp only [FASTPATH_MAX_PACKET_SIZE] at hsrc
  obtain ⟨compression, flags, dst, context', r, hcompr, hfields, hdst, hdec, hsync'⟩ :=
    fastpathCompressFragment_spec settings hcodec compress hsync src
  obtain ⟨h, hh⟩ : ∃ h : FastPathUpdateHeader,
      h = ⟨updateCode, fragmentation, compression, flags, dst.length⟩ := ⟨_, rfl⟩
  have hvalid : h.Valid := by
    rw [hh]
    exact ⟨hcode, by dsimp only; omega, hfields⟩
  have hlength : (fastpathWriteUpdateHeader h ++ dst).length ≤ 4 + dst.length ∧
      0 < (fastpathWriteUpdateHeader h ++ dst).length := by
    simp only [fastpathWriteUpdateHeader, bytesUInt8, bytesUInt16, List.length_append,
      List.length_cons, List.length_nil]
    split
    · simp only [List.length_cons, List.length_nil]
      omega
    · simp only [List.length_nil]
      omega
  obtain ⟨s, t, hrecv, hs, hkeys'⟩ := rdpRecvFastpathPdu_write codec settings handler hsec
    hkeys hlength.2 (by omega)
  refine ⟨(fastpathWritePdu security settings keys (fastpathWriteUpdateHeader h ++ dst)).1,
    context', _, r, t, ?_, ?_, hsync', hkeys'⟩
  · simp only [fastpathSendFragment, hcompr, ← hh]
  · rw [hrecv, fastpathRecvUpdates_write codec settings handler hvalid (by rw [hh]) hs
      (by rw [hh]; exact hdec), hh]

end Channel

end FreeRdp
