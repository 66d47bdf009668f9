import FreeRdp.Core.FastPath.Fragments

/-!
# Fragmentation and reassembly

The sender cuts every update of a session into fragments; the receiver puts the fragments of each
update together again. The fragments of one update are followed by induction on the rest that
is still to be sent, the updates of a session by induction on their list.
-/

namespace FreeRdp

variable {σ ρ κ τ : Type*}

/-- An update as `fastpath_send_update_pdu` is called for it. -/
structure FastPathUpdate where
  updateCode : Nat
  data : List UInt8
  skipCompression : Bool
  deriving DecidableEq, Repr

section Runs

variable (codec : BulkCodec σ ρ) (security : FastPathSecurity κ τ) (settings : FastPathSettings)

/-- A run of the sender: whether every call returned `TRUE`, and the PDUs of each update. -/
def fastpathSendUpdates : σ → κ → List FastPathUpdate → Bool × List (List (List UInt8))
  | _, _, [] => (true, [])
  | context, keys, u :: updates =>
    let (ok, pdus, context, keys) := fastpathSendUpdatePdu codec security settings u.updateCode
      u.skipCompression context keys u.data
    let (oks, pdusOf) := fastpathSendUpdates context keys updates
    (ok && oks, pdus :: pdusOf)

/-- A run of the receiver: whether every PDU was processed without an error. -/
def rdpRecvFastpathPdus (handler : Nat → List UInt8 → Bool) :
    FastPathReceiver ρ τ → List (List UInt8) → Bool × FastPathReceiver ρ τ
  | fp, [] => (true, fp)
  | fp, pdu :: pdus =>
    let (ok, fp) := rdpRecvFastpathPdu codec security settings handler fp pdu
    let (oks, fp) := rdpRecvFastpathPdus handler fp pdus
    (ok && oks, fp)

end Runs

/-- No fragment is in progress and no byte of an update is waiting. -/
def FastPathReceiver.Idle (fp : FastPathReceiver ρ τ) : Prop :=
  fp.fragmentation = none ∧ fp.updateData = []

section Session

variable {codec : BulkCodec σ ρ} {security : FastPathSecurity κ τ} {settings : FastPathSettings}
  {handler : Nat → List UInt8 → Bool} {SyncBulk : σ → ρ → Prop} {SyncKeys : κ → τ → Prop}

lemma rdpRecvFastpathPdus_append (fp : FastPathReceiver ρ τ) (xs ys : List (List UInt8)) :
    rdpRecvFastpathPdus codec security settings handler fp (xs ++ ys) =
      let (ok, fp') := rdpRecvFastpathPdus codec security settings handler fp xs
      let (oks, fp'') := rdpRecvFastpathPdus codec security settings handler fp' ys
      (ok && oks, fp'') := by
  induction xs generalizing fp with
  | nil => simp [rdpRecvFastpathPdus]
  | cons pdu xs ih => simp only [List.cons_append, rdpRecvFastpathPdus, ih, Bool.and_assoc]

lemma fastpathMaxLength_bounds (settings : FastPathSettings) (compress : Bool) :
    0 < fastpathMaxLength settings compress ∧
      fastpathMaxLength settings compress ≤ FASTPATH_MAX_PACKET_SIZE - 20 := by
  simp only [fastpathMaxLength, bulkCompressionMaxSize, FASTPATH_MAX_PACKET_SIZE]
  cases compress with
  | false => simp
  | true =>
    simp only [if_true]
    split <;> decide

/-- The state of a receiver that waits for fragment number `fragment` of an update, of which `rest`
is still to come. -/
structure FastPathReceiver.Awaits (fp : FastPathReceiver ρ τ) (settings : FastPathSettings)
    (fragment : Nat) (rest : List UInt8) : Prop where
  start : fragment = 0 → fp.Idle
  middle : fragment ≠ 0 → fp.fragmentation = some .first ∨ fp.fragmentation = some .next
  fits : (fp.updateData ++ rest).length ≤ settings.multifragMaxRequestSize

/-- The receiver `fp` after it has handed over one more update. -/
def FastPathReceiver.Delivered (fp fp' : FastPathReceiver ρ τ) (updateCode : Nat)
    (data : List UInt8) : Prop :=
  fp'.Idle ∧ fp'.dispatched = fp.dispatched ++ [(updateCode, data)]

/-- The final fragment of an update. -/
lemma fastpathRecvFragment_final (handler : Nat → List UInt8 → Bool) (updateCode : Nat)
    {fp : FastPathReceiver ρ τ} {fragment : Nat} {rest : List UInt8}
    (h : fp.Awaits settings fragment rest) (r : ρ) (t : τ) :
    ∃ fp', fastpathRecvFragment settings handler updateCode
        (if fragment = 0 then .single else .last)
        { fp with bulk := r, keys := t, updateData := fp.updateData ++ rest } =
          (handler updateCode (fp.updateData ++ rest), fp') ∧
      fp.Delivered fp' updateCode (fp.updateData ++ rest) ∧ fp'.bulk = r ∧ fp'.keys = t := by
  by_cases h0 : fragment = 0
  · obtain ⟨hfrag, -⟩ := h.start h0
    refine ⟨⟨none, [], r, t, fp.dispatched ++ [(updateCode, fp.updateData ++ rest)]⟩, ?_,
      ⟨⟨rfl, rfl⟩, rfl⟩, rfl, rfl⟩
    simp [h0, fastpathRecvFragment, hfrag, fastpathDispatch]
  · have hfits : ¬(fp.updateData ++ rest).length > settings.multifragMaxRequestSize :=
      not_lt.mpr h.fits
    have hfrag : ¬(fp.fragmentation ≠ some .first ∧ fp.fragmentation ≠ some .next) := by
      have := h.middle h0
      tauto
    refine ⟨⟨none, [], r, t, fp.dispatched ++ [(updateCode, fp.updateData ++ rest)]⟩, ?_,
      ⟨⟨rfl, rfl⟩, rfl⟩, rfl, rfl⟩
    simp only [if_neg h0, fastpathRecvFragment, if_neg hfits, if_neg hfrag, fastpathDispatch]

/-- A fragment that more fragments follow. -/
lemma fastpathRecvFragment_more (handler : Nat → List UInt8 → Bool) (updateCode : Nat)
    {fp : FastPathReceiver ρ τ} {fragment : Nat} {src rest : List UInt8}
    (h : fp.Awaits settings fragment (src ++ rest)) (r : ρ) (t : τ) :
    ∃ fp', fastpathRecvFragment settings handler updateCode
        (if fragment = 0 then .first else .next)
        { fp with bulk := r, keys := t, updateData := fp.updateData ++ src } = (true, fp') ∧
      fp'.Awaits settings (fragment + 1) rest ∧ fp'.updateData = fp.updateData ++ src ∧
      fp'.dispatched = fp.dispatched ∧ fp'.bulk = r ∧ fp'.keys = t := by
  have hfits' := h.fits
  simp only [List.length_append] at hfits'
  have hfits : ¬(fp.updateData ++ src).length > settings.multifragMaxRequestSize := by
    rw [List.length_append]
    omega
  have hnext : (fp.updateData ++ src ++ rest).length ≤ settings.multifragMaxRequestSize := by
    rw [List.append_assoc]
    exact h.fits
  by_cases h0 : fragment = 0
  · obtain ⟨hfrag, -⟩ := h.start h0
    refine ⟨⟨some .first, fp.updateData ++ src, r, t, fp.dispatched⟩, ?_,
      ⟨by simp, fun _ => .inl rfl, hnext⟩, rfl, rfl, rfl, rfl⟩
    simp only [if_pos h0, fastpathRecvFragment, if_neg hfits, hfrag, ne_eq, not_true_eq_false,
      if_false]
  · have hfrag : ¬(fp.fragmentation ≠ some .first ∧ fp.fragmentation ≠ some .next) := by
      have := h.middle h0
      tauto
    refine ⟨⟨some .next, fp.updateData ++ src, r, t, fp.dispatched⟩, ?_,
      ⟨by simp, fun _ => .inr rfl, hnext⟩, rfl, rfl, rfl, rfl⟩
    simp only [if_neg h0, fastpathRecvFragment, if_neg hfits, if_neg hfrag]

/-- The PDUs of an update from fragment number `fragment` on complete it. -/
lemma fastpathSendLoop_received (handler : Nat → List UInt8 → Bool)
    (hcodec : codec.RoundTrips SyncBulk)
    (hsec : security.RoundTrips SyncKeys) {updateCode : Nat} (hcode : updateCode < 16)
    (compress : Bool) {fuel fragment : Nat} {fp : FastPathReceiver ρ τ} {context : σ} {keys : κ}
    {rest : List UInt8} (hfuel : rest.length < fuel) (hsync : SyncBulk context fp.bulk)
    (hkeys : SyncKeys keys fp.keys) (hawaits : fp.Awaits settings fragment rest)
    (hmore : 0 < rest.length ∨ fragment = 0) :
    ∃ pdus context' keys' fp',
      fastpathSendLoop codec security settings updateCode compress fuel fragment context keys rest =
        (pdus, context', keys') ∧
      rdpRecvFastpathPdus codec security settings handler fp pdus =
        (handler updateCode (fp.updateData ++ rest), fp') ∧
      fp.Delivered fp' updateCode (fp.updateData ++ rest) ∧
      SyncBulk context' fp'.bulk ∧ SyncKeys keys' fp'.keys := by
  obtain ⟨hmax0, hmax⟩ := fastpathMaxLength_bounds settings compress
  -- induction on the rounds; each one takes at least a byte off the rest
  induction fuel generalizing fragment fp context keys rest with
  | zero => omega
  | succ fuel ih =>
    obtain ⟨size, hsize⟩ : ∃ size, (if rest.length > fastpathMaxLength settings compress then
        fastpathMaxLength settings compress else rest.length) = size := ⟨_, rfl⟩
    have hsize_le : size ≤ rest.length ∧ size ≤ fastpathMaxLength settings compress := by
      split at hsize <;> omega
    have hsrc : (rest.take size).length ≤ FASTPATH_MAX_PACKET_SIZE - 20 := by
      rw [List.length_take]
      omega
    simp only [fastpathSendLoop, if_pos hmore, hsize, List.length_drop]
    by_cases hlast : rest.length - size = 0
    · -- the last fragment
      have htake : rest.take size = rest := List.take_of_length_le (by omega)
      have hdrop : rest.drop size = [] := List.drop_of_length_le (by omega)
      obtain ⟨pdu, context', keys', r, t, hsend, hrecv, hsync', hkeys'⟩ :=
        fastpathSendFragment_received settings handler hcodec hsec hsync
          hkeys hcode compress (if fragment = 0 then .single else .last) hsrc
      obtain ⟨fp', hfinal, hdelivered, rfl, rfl⟩ :=
        fastpathRecvFragment_final handler updateCode hawaits r t
      have hstop : fastpathSendLoop codec security settings updateCode compress fuel (fragment + 1)
          context' keys' [] = ([], context', keys') := by
        cases fuel <;> simp [fastpathSendLoop]
      rw [htake] at hsend hrecv
      refine ⟨[pdu], context', keys', fp', ?_, ?_, hdelivered, hsync', hkeys'⟩
      · simp only [if_pos hlast, htake, hdrop, hsend, hstop]
      · simp only [rdpRecvFastpathPdus, hrecv, hfinal, Bool.and_true]
    · -- more fragments follow
      have hsplit : rest.take size ++ rest.drop size = rest := List.take_append_drop size rest
      obtain ⟨pdu, context', keys', r, t, hsend, hrecv, hsync', hkeys'⟩ :=
        fastpathSendFragment_received settings handler hcodec hsec hsync
          hkeys hcode compress (if fragment = 0 then .first else .next) hsrc
      rw [← hsplit] at hawaits
      obtain ⟨fp₁, hmid, hawaits₁, hdata, hdispatched, rfl, rfl⟩ :=
        fastpathRecvFragment_more handler updateCode hawaits r t
      have hsize_pos : 0 < size := by
        split at hsize <;> omega
      obtain ⟨pdus, context'', keys'', fp', hloop, hrecvs, hdelivered, hsync'', hkeys''⟩ :=
        ih (show (rest.drop size).length < fuel by rw [List.length_drop]; omega) hsync' hkeys'
        hawaits₁
          (.inl (by rw [List.length_drop]; omega))
      rw [hdata, List.append_assoc, hsplit] at hrecvs hdelivered
      refine ⟨pdu :: pdus, context'', keys'', fp', ?_, ?_, ?_, hsync'', hkeys''⟩
      · simp only [if_neg hlast, hsend, hloop]
      · simp only [rdpRecvFastpathPdus, hrecv, hmid, hrecvs, Bool.true_and]
      · exact ⟨hdelivered.1, by rw [hdelivered.2, hdispatched]⟩

/-- One update: the call succeeds, and its PDUs make an idle receiver hand it over. -/
lemma fastpathSendUpdatePdu_received (handler : Nat → List UInt8 → Bool)
    (hcodec : codec.RoundTrips SyncBulk)
    (hsec : security.RoundTrips SyncKeys) (hout : settings.fastPathOutput = true)
    {u : FastPathUpdate} (hcode : u.updateCode < 16)
    (hdata : u.data.length ≤ settings.multifragMaxRequestSize) {fp : FastPathReceiver ρ τ}
    (hidle : fp.Idle) {context : σ} {keys : κ} (hsync : SyncBulk context fp.bulk)
    (hkeys : SyncKeys keys fp.keys) :
    ∃ pdus context' keys' fp',
      fastpathSendUpdatePdu codec security settings u.updateCode u.skipCompression context keys
        u.data = (true, pdus, context', keys') ∧
      rdpRecvFastpathPdus codec security settings handler fp pdus =
        (handler u.updateCode u.data, fp') ∧
      fp.Delivered fp' u.updateCode u.data ∧ SyncBulk context' fp'.bulk ∧
      SyncKeys keys' fp'.keys := by
  have hawaits : fp.Awaits settings 0 u.data := by
    refine ⟨fun _ => hidle, fun h => absurd rfl h, ?_⟩
    rw [hidle.2, List.nil_append]
    exact hdata
  obtain ⟨pdus, context', keys', fp', hloop, hrecv, hdelivered, hsync', hkeys'⟩ :=
    fastpathSendLoop_received handler hcodec hsec hcode
      (settings.compressionEnabled && !u.skipCompression) (Nat.lt_succ_self u.data.length) hsync
      hkeys hawaits (.inr rfl)
  rw [hidle.2, List.nil_append] at hrecv hdelivered
  refine ⟨pdus, context', keys', fp', ?_, hrecv, hdelivered, hsync', hkeys'⟩
  simp only [fastpathSendUpdatePdu, hout, Bool.not_true, Bool.false_eq_true, if_false,
    if_neg (not_lt.mpr hdata), hloop]

/-- Fragmentation and reassembly agree. Every update of a session is sent; and after the PDUs of
the first `n` updates the receiver has handed over exactly these updates, in order, and is
idle. It reports an error only where the processing of an update does. -/
theorem fastpathSession_reassembles (hcodec : codec.RoundTrips SyncBulk)
    (hsec : security.RoundTrips SyncKeys) (hout : settings.fastPathOutput = true)
    {updates : List FastPathUpdate}
    (hupdates : ∀ u ∈ updates,
      u.updateCode < 16 ∧ u.data.length ≤ settings.multifragMaxRequestSize)
    {fp : FastPathReceiver ρ τ} (hidle : fp.Idle) {context : σ} {keys : κ}
    (hsync : SyncBulk context fp.bulk) (hkeys : SyncKeys keys fp.keys) :
    (fastpathSendUpdates codec security settings context keys updates).1 = true ∧
      (fastpathSendUpdates codec security settings context keys updates).2.length =
        updates.length ∧
      ∀ n, ∃ fp',
        rdpRecvFastpathPdus codec security settings handler fp
          ((fastpathSendUpdates codec security settings context keys updates).2.take n).flatten =
            ((updates.take n).all fun u => handler u.updateCode u.data, fp') ∧
        fp'.Idle ∧
        fp'.dispatched =
          fp.dispatched ++ (updates.take n).map fun u => (u.updateCode, u.data) := by
  induction updates generalizing fp context keys with
  | nil => exact ⟨rfl, rfl, fun n => ⟨fp, by simp [fastpathSendUpdates, rdpRecvFastpathPdus],
      hidle, by simp⟩⟩
  | cons u updates ih =>
    obtain ⟨hu, hrest⟩ := List.forall_mem_cons.mp hupdates
    obtain ⟨pdus, context', keys', fp₁, hsend, hrecv, ⟨hidle₁, hdispatched⟩, hsync₁, hkeys₁⟩ :=
      fastpathSendUpdatePdu_received handler hcodec hsec hout hu.1 hu.2 hidle hsync
        hkeys
    obtain ⟨hok, hlength, hreassembles⟩ := ih hrest hidle₁ hsync₁ hkeys₁
    simp only [fastpathSendUpdates, hsend]
    refine ⟨by rw [hok]; rfl, by rw [List.length_cons, hlength, List.length_cons], fun n => ?_⟩
    cases n with
    | zero => exact ⟨fp, by simp [rdpRecvFastpathPdus], hidle, by simp⟩
    | succ n =>
      obtain ⟨fp', hrecvs, hidle', hdispatched'⟩ := hreassembles n
      refine ⟨fp', ?_, hidle', ?_⟩
      · simp only [List.take_succ_cons, List.flatten_cons, rdpRecvFastpathPdus_append, hrecv,
          hrecvs, List.all_cons]
      · rw [hdispatched', hdispatched]
        simp

end Session

/-! ### A session without encryption -/

/-- A codec that finds nothing to compress: every packet goes out flushed. -/
def flushingCodec : BulkCodec Unit Unit where
  compress level s src := (some (src, 0x80 ||| level % 4), s)
  decompress _ r src _ := (some src, r)

/-- Ciphers that are never asked to do anything. -/
def plainSecurity : FastPathSecurity Unit Unit where
  protect k _ data _ := (List.replicate 8 0, data, k)
  unprotect t _ data _ _ := (some data, t)

lemma flushingCodec_roundTrips : flushingCodec.RoundTrips fun _ _ => True where
  failed _ _ _ _ := trivial
  plain _ _ _ _ := trivial
  compressed {level _ _ _ _ _ _} _ _ _ h _ := by
    simp only [flushingCodec, Prod.mk.injEq, Option.some.injEq] at h
    obtain ⟨⟨rfl, rfl⟩, -⟩ := h
    have hlevel : level % 4 < 4 := Nat.mod_lt _ (by decide)
    refine ⟨?_, by omega, (), ?_, trivial⟩
    · generalize level % 4 = l at hlevel
      decide +revert
    · generalize level % 4 = l at hlevel
      have hflags : (0x80 ||| l) &&& BULK_COMPRESSION_FLAGS_MASK ≠ 0 := by decide +revert
      have htype : (0x80 ||| l) &&& BULK_COMPRESSION_TYPE_MASK ≤ 3 := by decide +revert
      simp only [bulkDecompress, if_pos hflags, if_pos htype]
      rfl

lemma plainSecurity_roundTrips : plainSecurity.RoundTrips fun _ _ => True where
  unprotect _ _ h := by
    simp only [plainSecurity, Prod.mk.injEq] at h
    obtain ⟨rfl, rfl, -⟩ := h
    exact ⟨rfl, rfl, (), rfl, trivial⟩

/-- A bitmap update in two fragments and an empty one. -/
theorem fastpathSession_reassembles_bitmap :
    ∃ fp', rdpRecvFastpathPdus flushingCodec plainSecurity
        ⟨true, 1, 0x10000, true, false, false, false⟩ (fun _ _ => true) ⟨none, [], (), (), []⟩
        ((fastpathSendUpdates flushingCodec plainSecurity
          ⟨true, 1, 0x10000, true, false, false, false⟩ () ()
          [⟨FastPathUpdateType.bitmap.code, List.replicate 20000 7, true⟩,
            ⟨FastPathUpdateType.synchronize.code, [], false⟩]).2.take 2).flatten = (true, fp') ∧
      fp'.Idle ∧ fp'.dispatched = [(1, List.replicate 20000 7), (3, [])] :=
  (fastpathSession_reassembles flushingCodec_roundTrips plainSecurity_roundTrips rfl
    (by
      rw [List.forall_mem_cons, List.forall_mem_singleton, List.length_replicate]
      exact ⟨⟨FastPathUpdateType.bitmap.code_lt, by decide⟩,
        FastPathUpdateType.synchronize.code_lt, by decide⟩)
    ⟨rfl, rfl⟩ trivial trivial).2.2 2

end FreeRdp
