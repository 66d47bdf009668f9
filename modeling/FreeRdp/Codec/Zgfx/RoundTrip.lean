import FreeRdp.Codec.Zgfx.Basic

/-!
# RDP8 round trip

The bytes the compressor makes of a buffer, with the sizes and the count it fills in afterwards, and
what the decompressor makes of them. The size of the result is a 32-bit number: near the largest
buffer the segment format allows it does not fit, and the data is cut off.
-/

namespace FreeRdp

/-! ### The compressed form -/

/-- The header byte of a segment. -/
def zgfxHeader (flags : Nat) : List UInt8 := bytesUInt8 (flags ||| ZGFX_PACKET_COMPR_TYPE_RDP8)

/-- A segment of the multipart form. -/
def zgfxPart (flags : Nat) (chunk : List UInt8) : List UInt8 :=
  bytesUInt32 (chunk.length + 1) ++ (zgfxHeader flags ++ chunk)

/-- The segments of the bytes `src`. -/
def zgfxParts (flags : Nat) (src : List UInt8) : List UInt8 :=
  if _h : src = [] then []
  else
    zgfxPart flags (src.take ZGFX_SEGMENTED_MAXSIZE) ++
      zgfxParts flags (src.drop ZGFX_SEGMENTED_MAXSIZE)
termination_by src.length
decreasing_by
  have : 0 < src.length := List.length_pos_of_ne_nil _h
  rw [List.length_drop, ZGFX_SEGMENTED_MAXSIZE]
  omega

/-- The number of segments. -/
def zgfxPartCount (src : List UInt8) : Nat :=
  (src.length + (ZGFX_SEGMENTED_MAXSIZE - 1)) / ZGFX_SEGMENTED_MAXSIZE

/-- The bytes before the size of the result is cut to 32 bits. -/
def zgfxEncoded (flags : Nat) (src : List UInt8) : List UInt8 :=
  if src.length ≤ ZGFX_SEGMENTED_MAXSIZE then
    bytesUInt8 ZGFX_SEGMENTED_SINGLE ++ (zgfxHeader flags ++ src)
  else
    bytesUInt8 ZGFX_SEGMENTED_MULTIPART ++ (bytesUInt16 (zgfxPartCount src) ++
      (bytesUInt32 src.length ++ zgfxParts flags src))

lemma zgfxHeader_or (flags : Nat) :
    zgfxHeader (flags ||| ZGFX_PACKET_COMPR_TYPE_RDP8) = zgfxHeader flags := by
  rw [zgfxHeader, zgfxHeader, Nat.or_assoc, Nat.or_self]

@[simp] lemma zgfxParts_nil (flags : Nat) : zgfxParts flags [] = [] := by
  rw [zgfxParts, dif_pos rfl]

lemma zgfxParts_of_ne (flags : Nat) {src : List UInt8} (h : src ≠ []) :
    zgfxParts flags src = zgfxPart flags (src.take ZGFX_SEGMENTED_MAXSIZE) ++
      zgfxParts flags (src.drop ZGFX_SEGMENTED_MAXSIZE) := by
  rw [zgfxParts, dif_neg h]

lemma take_srcSize (src : List UInt8) :
    src.take (if src.length > ZGFX_SEGMENTED_MAXSIZE then ZGFX_SEGMENTED_MAXSIZE
      else src.length) = src.take ZGFX_SEGMENTED_MAXSIZE := by
  split
  · rfl
  · rename_i hle
    rw [List.take_length, List.take_of_length_le (not_lt.mp hle)]

/-- The size of a segment is filled in after the segment has been written. -/
lemma zgfxFillSize_written {front : List UInt8} (flags : Nat) (chunk : List UInt8)
    (hfront : front ≠ []) :
    zgfxFillSize (WStream.written (front ++ List.replicate 4 0 ++ (zgfxHeader flags ++ chunk)))
        front.length (front.length + 4) =
      WStream.written (front ++ zgfxPart flags chunk) := by
  have hpos : front.length ≠ 0 := by simpa using hfront
  have hlength : (front ++ List.replicate 4 0 ++ (zgfxHeader flags ++ chunk)).length =
      front.length + 4 + (chunk.length + 1) := by
    simp [zgfxHeader, bytesUInt8]
    omega
  have hsize : front.length + 4 + (chunk.length + 1) - (front.length + 4) = chunk.length + 1 :=
    Nat.add_sub_cancel_left _ _
  have hgap : (List.replicate 4 (0 : UInt8)).length = (bytesUInt32 (chunk.length + 1)).length := rfl
  have hpatch := WStream.patch_written front (zgfxHeader flags ++ chunk) hgap
  rw [zgfxFillSize, if_pos hpos, WStream.pos_written, hlength, hsize]
  rw [hlength] at hpatch
  simp only
  rw [hpatch, zgfxPart, List.append_assoc]

/-- A fragment after the first one. -/
lemma zgfxCompressFragment_next {front : List UInt8} {fragment posSegmentCount : Nat} (flags : Nat)
    (src : List UInt8) (uncompressedSize : Nat) (hfront : front ≠ []) (hfragment : fragment ≠ 0) :
    zgfxCompressFragment ⟨WStream.written front, fragment, posSegmentCount, flags⟩ src
        uncompressedSize =
      ⟨WStream.written (front ++ zgfxPart flags (src.take ZGFX_SEGMENTED_MAXSIZE)), fragment + 1,
        posSegmentCount, flags ||| ZGFX_PACKET_COMPR_TYPE_RDP8⟩ := by
  have hfill := zgfxFillSize_written flags (src.take ZGFX_SEGMENTED_MAXSIZE) hfront
  have hheaders : ∀ totalLength, zgfxWriteHeaders
      ⟨WStream.written front, fragment, posSegmentCount, flags⟩ totalLength uncompressedSize =
        (WStream.written (front ++ List.replicate 4 0), posSegmentCount, front.length) := by
    intro totalLength
    simp [zgfxWriteHeaders, hfragment, Nat.pos_of_ne_zero hfragment]
  simp only [zgfxCompressFragment, hheaders, zgfxCompressSegment, take_srcSize,
    WStream.write_written, WStream.pos_written]
  rw [← zgfxHeader, List.append_assoc, List.length_append, List.length_replicate, hfill]

/-- The only fragment of a short buffer. -/
lemma zgfxCompressFragment_single {src : List UInt8} (flags uncompressedSize : Nat)
    (h : src.length ≤ ZGFX_SEGMENTED_MAXSIZE) :
    zgfxCompressFragment ⟨WStream.written [], 0, 0, flags⟩ src uncompressedSize =
      ⟨WStream.written (bytesUInt8 ZGFX_SEGMENTED_SINGLE ++ (zgfxHeader flags ++ src)), 1, 0,
        flags ||| ZGFX_PACKET_COMPR_TYPE_RDP8⟩ := by
  have hsize : (if src.length > ZGFX_SEGMENTED_MAXSIZE then ZGFX_SEGMENTED_MAXSIZE
      else src.length) = src.length := if_neg (not_lt.mpr h)
  have hheaders : zgfxWriteHeaders ⟨WStream.written [], 0, 0, flags⟩ 0 uncompressedSize =
      (WStream.written (bytesUInt8 ZGFX_SEGMENTED_SINGLE), 0, 0) := rfl
  have hfill : ∀ s posDataStart, zgfxFillSize s 0 posDataStart = s := fun _ _ => rfl
  rw [zgfxCompressFragment, hsize, Nat.sub_self, hheaders, List.take_length]
  simp only [zgfxCompressSegment, WStream.write_written, hfill]
  rw [← zgfxHeader, List.append_assoc]

/-- The front of the multipart form, before the segment count is filled in. -/
def zgfxFront (uncompressedSize : Nat) : List UInt8 :=
  bytesUInt8 ZGFX_SEGMENTED_MULTIPART ++ List.replicate 2 0 ++ bytesUInt32 uncompressedSize

lemma zgfxFront_ne_nil (uncompressedSize : Nat) : zgfxFront uncompressedSize ≠ [] := by
  simp [zgfxFront, bytesUInt8]

/-- The first fragment of a longer buffer. -/
lemma zgfxCompressFragment_first {src : List UInt8} (flags uncompressedSize : Nat)
    (h : ZGFX_SEGMENTED_MAXSIZE < src.length) :
    zgfxCompressFragment ⟨WStream.written [], 0, 0, flags⟩ src uncompressedSize =
      ⟨WStream.written (zgfxFront uncompressedSize ++
          zgfxPart flags (src.take ZGFX_SEGMENTED_MAXSIZE)), 1, 1,
        flags ||| ZGFX_PACKET_COMPR_TYPE_RDP8⟩ := by
  have hsize : (if src.length > ZGFX_SEGMENTED_MAXSIZE then ZGFX_SEGMENTED_MAXSIZE
      else src.length) = ZGFX_SEGMENTED_MAXSIZE := if_pos h
  have hrest : src.length - ZGFX_SEGMENTED_MAXSIZE ≠ 0 := by omega
  have hheaders : ∀ totalLength, totalLength ≠ 0 →
      zgfxWriteHeaders ⟨WStream.written [], 0, 0, flags⟩ totalLength uncompressedSize =
        (WStream.written (zgfxFront uncompressedSize ++ List.replicate 4 0), 1,
          (zgfxFront uncompressedSize).length) := by
    intro totalLength htotal
    rw [zgfxWriteHeaders]
    simp only [if_true, if_neg htotal, Nat.pos_of_ne_zero htotal, or_true,
      WStream.write_written, List.nil_append]
    rfl
  have hfill := zgfxFillSize_written flags (src.take ZGFX_SEGMENTED_MAXSIZE)
    (zgfxFront_ne_nil uncompressedSize)
  rw [zgfxCompressFragment, hsize, hheaders _ hrest]
  simp only [zgfxCompressSegment, WStream.write_written, WStream.pos_written]
  rw [← zgfxHeader, List.append_assoc _ (zgfxHeader flags), List.length_append,
    List.length_replicate, hfill]

lemma zgfxPartCount_of_ne {src : List UInt8} (h : src ≠ []) :
    zgfxPartCount src = zgfxPartCount (src.drop ZGFX_SEGMENTED_MAXSIZE) + 1 := by
  have hpos : 0 < src.length := List.length_pos_of_ne_nil h
  simp only [zgfxPartCount, ZGFX_SEGMENTED_MAXSIZE, List.length_drop]
  omega

/-- The loop after the first fragment. -/
lemma zgfxCompressLoop_written (flags uncompressedSize posSegmentCount : Nat) (src : List UInt8) :
    ∀ {fuel fragment : Nat} {front : List UInt8}, src.length ≤ fuel → front ≠ [] → fragment ≠ 0 →
      zgfxCompressLoop uncompressedSize fuel ⟨WStream.written front, fragment, posSegmentCount,
          flags ||| ZGFX_PACKET_COMPR_TYPE_RDP8⟩ src =
        ⟨WStream.written (front ++ zgfxParts flags src), fragment + zgfxPartCount src,
          posSegmentCount, flags ||| ZGFX_PACKET_COMPR_TYPE_RDP8⟩ := by
  induction src using zgfxParts.induct with
  | case1 =>
    intro fuel fragment front _ _ hfragment
    have hcount : zgfxPartCount [] = 0 := rfl
    have hstop : zgfxCompressLoop uncompressedSize fuel ⟨WStream.written front, fragment,
        posSegmentCount, flags ||| ZGFX_PACKET_COMPR_TYPE_RDP8⟩ [] = ⟨WStream.written front,
          fragment, posSegmentCount, flags ||| ZGFX_PACKET_COMPR_TYPE_RDP8⟩ := by
      cases fuel with
      | zero => rfl
      | succ fuel => exact if_neg (by simp [hfragment])
    rw [hstop, zgfxParts_nil, hcount, List.append_nil, Nat.add_zero]
  | case2 src hne ih =>
    intro fuel fragment front hfuel hfront hfragment
    have hpos : 0 < src.length := List.length_pos_of_ne_nil hne
    cases fuel with
    | zero => omega
    | succ fuel =>
      have hrest : (src.drop ZGFX_SEGMENTED_MAXSIZE).length ≤ fuel := by
        rw [List.length_drop, ZGFX_SEGMENTED_MAXSIZE]
        omega
      have hfront' : front ++ zgfxPart flags (src.take ZGFX_SEGMENTED_MAXSIZE) ≠ [] :=
        List.append_ne_nil_of_left_ne_nil hfront _
      have hpart : ∀ chunk, zgfxPart (flags ||| ZGFX_PACKET_COMPR_TYPE_RDP8) chunk =
          zgfxPart flags chunk := by
        intro chunk
        rw [zgfxPart, zgfxPart, zgfxHeader_or]
      rw [zgfxCompressLoop, if_pos (Or.inl hpos), zgfxCompressFragment_next _ _ _ hfront hfragment,
        Nat.or_assoc, Nat.or_self, hpart, ih hrest hfront' (Nat.succ_ne_zero fragment),
        zgfxParts_of_ne flags hne, zgfxPartCount_of_ne hne, List.append_assoc]
      congr 1
      omega

/-- `zgfx_compress_to_stream` writes the compressed form. -/
theorem zgfxCompressToStream_eq (src : List UInt8) (flags : Nat) :
    zgfxCompressToStream (WStream.ofBytes []) src flags =
      (WStream.written (zgfxEncoded flags src), flags ||| ZGFX_PACKET_COMPR_TYPE_RDP8) := by
  have hnew : WStream.ofBytes [] = WStream.written [] := rfl
  have hfirst : ∀ st : ZgfxFragments, st.fragment = 0 →
      zgfxCompressLoop src.length (src.length + 1) st src =
        zgfxCompressLoop src.length src.length (zgfxCompressFragment st src src.length)
          (src.drop ZGFX_SEGMENTED_MAXSIZE) := by
    intro st hst
    rw [zgfxCompressLoop, if_pos (Or.inr hst)]
  have hgap : ∀ count, (List.replicate 2 (0 : UInt8)).length = (bytesUInt16 count).length :=
    fun _ => rfl
  have hfuel : (src.drop ZGFX_SEGMENTED_MAXSIZE).length ≤ src.length := by
    rw [List.length_drop]
    exact Nat.sub_le _ _
  rw [zgfxCompressToStream, hnew, hfirst _ rfl]
  by_cases hshort : src.length ≤ ZGFX_SEGMENTED_MAXSIZE
  · have hnone : src.drop ZGFX_SEGMENTED_MAXSIZE = [] := List.drop_of_length_le hshort
    rw [hnone] at hfuel
    rw [zgfxCompressFragment_single flags _ hshort, hnone,
      zgfxCompressLoop_written flags _ _ [] (Nat.zero_le _) (by simp [bytesUInt8]) one_ne_zero,
      zgfxParts_nil, List.append_nil, zgfxEncoded, if_pos hshort]
    rfl
  · have hne : src ≠ [] := by
      rintro rfl
      exact hshort (Nat.zero_le _)
    have hlong := not_le.mp hshort
    have hfront := List.append_ne_nil_of_left_ne_nil (zgfxFront_ne_nil src.length)
      (zgfxPart flags (src.take ZGFX_SEGMENTED_MAXSIZE))
    rw [zgfxCompressFragment_first flags _ hlong,
      zgfxCompressLoop_written flags _ _ _ hfuel hfront one_ne_zero, List.append_assoc,
      ← zgfxParts_of_ne flags hne, Nat.add_comm 1, ← zgfxPartCount_of_ne hne]
    simp only [one_ne_zero, ne_eq, not_false_eq_true, if_true]
    have hfill := WStream.write_gap (bytesUInt8 ZGFX_SEGMENTED_MULTIPART)
      (bytesUInt32 src.length ++ zgfxParts flags src) (hgap (zgfxPartCount src))
    have hone : (bytesUInt8 ZGFX_SEGMENTED_MULTIPART).length = 1 := rfl
    rw [hone, ← List.append_assoc, ← zgfxFront] at hfill
    rw [hfill, zgfxEncoded, if_neg hshort, List.append_assoc]
    rfl

/-- `zgfx_compress` returns the compressed form up to the 32-bit size. -/
theorem zgfxCompress_eq (src : List UInt8) (flags : Nat) :
    zgfxCompress src flags =
      (zgfxEncoded flags src).take ((zgfxEncoded flags src).length % 2 ^ 32) := by
  rw [zgfxCompress, zgfxCompressToStream_eq]
  rfl

/-! ### Its length -/

lemma length_zgfxPart (flags : Nat) (chunk : List UInt8) :
    (zgfxPart flags chunk).length = chunk.length + 5 := by
  simp only [zgfxPart, zgfxHeader, bytesUInt32, bytesUInt8, List.length_append, List.length_cons,
    List.length_nil]
  omega

lemma length_zgfxParts (flags : Nat) (src : List UInt8) :
    (zgfxParts flags src).length = src.length + 5 * zgfxPartCount src := by
  induction src using zgfxParts.induct with
  | case1 => rw [zgfxParts_nil]; rfl
  | case2 src hne ih =>
    rw [zgfxParts_of_ne flags hne, List.length_append, ih, length_zgfxPart,
      zgfxPartCount_of_ne hne, List.length_take, List.length_drop]
    omega

lemma length_zgfxEncoded_long {src : List UInt8} (flags : Nat)
    (h : ZGFX_SEGMENTED_MAXSIZE < src.length) :
    (zgfxEncoded flags src).length = src.length + 5 * zgfxPartCount src + 7 := by
  rw [zgfxEncoded, if_neg (not_le.mpr h)]
  simp only [List.length_append, length_zgfxParts, bytesUInt8, bytesUInt16, bytesUInt32,
    List.length_cons, List.length_nil]
  omega

/-- The largest buffer whose compressed form has a 32-bit size. -/
def ZGFX_LARGEST : Nat := 4294639623

/-- The size of the compressed form fits exactly up to that buffer. -/
lemma length_zgfxEncoded_lt_iff (flags : Nat) (src : List UInt8) :
    (zgfxEncoded flags src).length < 2 ^ 32 ↔ src.length ≤ ZGFX_LARGEST := by
  by_cases hshort : src.length ≤ ZGFX_SEGMENTED_MAXSIZE
  · have hlength : (zgfxEncoded flags src).length = src.length + 2 := by
      rw [zgfxEncoded, if_pos hshort]
      simp only [List.length_append, zgfxHeader, bytesUInt8, List.length_cons, List.length_nil]
      omega
    rw [hlength, ZGFX_LARGEST]
    rw [ZGFX_SEGMENTED_MAXSIZE] at hshort
    omega
  · rw [length_zgfxEncoded_long flags (not_le.mp hshort), zgfxPartCount, ZGFX_SEGMENTED_MAXSIZE,
      ZGFX_LARGEST]
    omega

/-! ### Reading it back -/

lemma zgfxHeader_flags {flags : Nat} (hflags : flags &&& ZGFX_PACKET_COMPRESSED = 0) :
    (UInt8.ofNat (flags ||| ZGFX_PACKET_COMPR_TYPE_RDP8)).toNat &&& ZGFX_PACKET_COMPRESSED = 0 := by
  have hbyte : ∀ n : Nat, n % 2 ^ 8 &&& ZGFX_PACKET_COMPRESSED = n &&& ZGFX_PACKET_COMPRESSED := by
    intro n
    rw [← Nat.and_two_pow_sub_one_eq_mod, Nat.and_assoc]
    rfl
  rw [UInt8.toNat_ofNat', hbyte, Nat.and_or_distrib_right, hflags]
  rfl

/-- A segment whose header does not have `PACKET_COMPRESSED` is copied to the output. -/
lemma zgfxDecompressSegment_raw (zgfx : ZgfxContext) {stream : WStream} {flags : Nat}
    {chunk rest : List UInt8} (hflags : flags &&& ZGFX_PACKET_COMPRESSED = 0)
    (hunread : stream.unread = zgfxHeader flags ++ (chunk ++ rest))
    (hchunk : chunk.length ≤ ZGFX_SEGMENTED_MAXSIZE) :
    ∃ zgfx' stream', zgfxDecompressSegment zgfx stream (chunk.length + 1) = some (zgfx', stream') ∧
      zgfx'.output = chunk ∧ stream'.unread = rest := by
  have hremaining : stream.remainingLength = chunk.length + rest.length + 1 := by
    rw [WStream.remainingLength_eq, hunread]
    simp only [zgfxHeader, bytesUInt8, List.length_append, List.length_cons, List.length_nil]
    omega
  have hchecks : ¬ (stream.remainingLength < chunk.length + 1 ∨ chunk.length + 1 < 1 ∨
      chunk.length + 1 > 2 ^ 32 - 1) := by
    rw [hremaining]
    rw [ZGFX_SEGMENTED_MAXSIZE] at hchunk
    omega
  have hheader : stream.readUInt8 =
      ((UInt8.ofNat (flags ||| ZGFX_PACKET_COMPR_TYPE_RDP8)).toNat, stream.seek 1) :=
    WStream.readUInt8_of_unread hunread
  have hclear := zgfxHeader_flags hflags
  have hunread' : (stream.seek 1).unread = chunk ++ rest := WStream.unread_seek_append hunread rfl
  have hread := WStream.read_of_unread hunread' rfl
  have hfits : ¬ chunk.length > ZGFX_OUTPUT_SIZE := by
    rw [ZGFX_OUTPUT_SIZE]
    rw [ZGFX_SEGMENTED_MAXSIZE] at hchunk
    omega
  refine ⟨{ zgfxHistoryBufferRingWrite { zgfx with output := [] } chunk with output := chunk },
    (stream.seek 1).seek chunk.length, ?_, rfl, WStream.unread_seek_append hunread' rfl⟩
  rw [zgfxDecompressSegment, if_neg hchecks, hheader]
  simp only [Nat.add_sub_cancel, hread, hclear, if_true, if_neg hfits]

/-- The segments are put together to the bytes they were made of. -/
lemma zgfxDecompressParts_raw {flags uncompressedSize : Nat}
    (hflags : flags &&& ZGFX_PACKET_COMPRESSED = 0) (hsize : uncompressedSize < 2 ^ 32)
    (src : List UInt8) :
    ∀ (zgfx : ZgfxContext) {stream : WStream} (concatenated : List UInt8),
      stream.unread = zgfxParts flags src → concatenated.length + src.length ≤ uncompressedSize →
      ∃ zgfx', zgfxDecompressParts uncompressedSize (zgfxPartCount src) zgfx stream concatenated =
        some (zgfx', concatenated ++ src) := by
  induction src using zgfxParts.induct with
  | case1 =>
    intro zgfx stream concatenated _ _
    refine ⟨zgfx, ?_⟩
    rw [List.append_nil]
    rfl
  | case2 src hne ih =>
    intro zgfx stream concatenated hunread hlength
    have hsplit : src.take ZGFX_SEGMENTED_MAXSIZE ++ src.drop ZGFX_SEGMENTED_MAXSIZE = src :=
      List.take_append_drop _ _
    have hsum := congrArg List.length hsplit
    rw [List.length_append] at hsum
    have hchunk : (src.take ZGFX_SEGMENTED_MAXSIZE).length ≤ ZGFX_SEGMENTED_MAXSIZE :=
      List.length_take_le _ _
    rw [zgfxParts_of_ne flags hne, zgfxPart, List.append_assoc, List.append_assoc] at hunread
    rw [zgfxPartCount_of_ne hne]
    generalize src.take ZGFX_SEGMENTED_MAXSIZE = chunk at hunread hsplit hsum hchunk
    generalize src.drop ZGFX_SEGMENTED_MAXSIZE = more at hunread hsplit hsum ih ⊢
    have henough : ¬ stream.remainingLength < 4 := by
      rw [WStream.remainingLength_eq, hunread, List.length_append]
      exact Nat.not_lt.mpr (Nat.le_add_right 4 _)
    have hword := WStream.readUInt32_bytes hunread (by
      rw [ZGFX_SEGMENTED_MAXSIZE] at hchunk
      omega)
    have hunread' : (stream.seek 4).unread = zgfxHeader flags ++ (chunk ++ zgfxParts flags more) :=
      WStream.unread_seek_append hunread rfl
    obtain ⟨zgfx', stream', hsegment, houtput, hrest⟩ :=
      zgfxDecompressSegment_raw zgfx hflags hunread' hchunk
    obtain ⟨zgfx'', hparts⟩ := ih zgfx' (concatenated ++ chunk) hrest (by
      rw [List.length_append]
      omega)
    refine ⟨zgfx'', ?_⟩
    rw [zgfxDecompressParts, if_neg henough, hword]
    simp only [hsegment, houtput]
    rw [if_neg (by omega), if_neg (by omega), hparts, List.append_assoc, hsplit]

/-- A buffer of one segment. -/
lemma zgfxDecompress_single (zgfx : ZgfxContext) {flags : Nat} {src : List UInt8}
    (hflags : flags &&& ZGFX_PACKET_COMPRESSED = 0) (hne : src ≠ [])
    (hshort : src.length ≤ ZGFX_SEGMENTED_MAXSIZE) :
    ∃ zgfx', zgfxDecompress zgfx (zgfxEncoded flags src) = some (⟨src, src.length⟩, zgfx') := by
  have hencoded : zgfxEncoded flags src =
      bytesUInt8 ZGFX_SEGMENTED_SINGLE ++ (zgfxHeader flags ++ src) := if_pos hshort
  have hunread := WStream.unread_ofBytes (zgfxEncoded flags src)
  simp only [zgfxDecompress]
  generalize WStream.ofBytes (zgfxEncoded flags src) = stream at hunread ⊢
  rw [hencoded] at hunread
  have hunread' : (stream.seek 1).unread = zgfxHeader flags ++ (src ++ []) := by
    rw [List.append_nil]
    exact WStream.unread_seek_append hunread rfl
  have hfirst : ¬ stream.remainingLength < 1 := by
    rw [WStream.remainingLength_eq, hunread, List.length_append]
    exact Nat.not_lt.mpr (Nat.le_add_right 1 _)
  have hremaining : (stream.seek 1).remainingLength = src.length + 1 := by
    rw [WStream.remainingLength_eq, hunread', List.append_nil, List.length_append, Nat.add_comm]
    rfl
  have hdescriptor := WStream.readUInt8_bytes hunread (by decide)
  obtain ⟨zgfx', stream', hsegment, houtput, -⟩ :=
    zgfxDecompressSegment_raw zgfx hflags hunread' hshort
  refine ⟨zgfx', ?_⟩
  rw [if_neg hfirst, hdescriptor]
  simp only [if_true, hremaining, hsegment, houtput, List.length_pos_of_ne_nil hne]

/-- The front of the multipart form: descriptor, segment count and uncompressed size are read, and
there have to be four bytes for each segment behind them. -/
lemma zgfxDecompress_multipart (zgfx : ZgfxContext) {segmentCount uncompressedSize : Nat}
    (parts : List UInt8) (hcount : segmentCount < 2 ^ 16) (hsize : uncompressedSize < 2 ^ 32) :
    ∃ stream : WStream, stream.unread = parts ∧
      zgfxDecompress zgfx (bytesUInt8 ZGFX_SEGMENTED_MULTIPART ++ (bytesUInt16 segmentCount ++
          (bytesUInt32 uncompressedSize ++ parts))) =
        if parts.length < segmentCount * 4 then none
        else (zgfxDecompressParts uncompressedSize segmentCount zgfx stream []).map
          (fun (zgfx, bytes) => (⟨bytes, uncompressedSize⟩, zgfx)) := by
  have hunread := WStream.unread_ofBytes (bytesUInt8 ZGFX_SEGMENTED_MULTIPART ++
    (bytesUInt16 segmentCount ++ (bytesUInt32 uncompressedSize ++ parts)))
  simp only [zgfxDecompress]
  generalize WStream.ofBytes _ = stream at hunread ⊢
  have hunread₁ := WStream.unread_seek_append hunread (n := 1) rfl
  have hunread₂ := WStream.unread_seek_append hunread₁ (n := 2) rfl
  have hunread₃ := WStream.unread_seek_append hunread₂ (n := 4) rfl
  have hfirst : ¬ stream.remainingLength < 1 := by
    rw [WStream.remainingLength_eq, hunread, List.length_append]
    exact Nat.not_lt.mpr (Nat.le_add_right 1 _)
  have hfront : ¬ (stream.seek 1).remainingLength < 6 := by
    rw [WStream.remainingLength_eq, hunread₁, List.length_append, List.length_append]
    exact Nat.not_lt.mpr (by
      simp only [bytesUInt16, bytesUInt32, List.length_cons, List.length_nil]
      omega)
  have hother : ZGFX_SEGMENTED_MULTIPART ≠ ZGFX_SEGMENTED_SINGLE := by decide
  refine ⟨((stream.seek 1).seek 2).seek 4, hunread₃, ?_⟩
  rw [if_neg hfirst, WStream.readUInt8_bytes hunread (by decide)]
  simp only [if_neg hother, if_true, if_neg hfront, WStream.readUInt16_bytes hunread₁ hcount,
    WStream.readUInt32_bytes hunread₂ hsize]
  rw [WStream.remainingLength_eq, hunread₃]

/-- The multipart form is not accepted without its front. -/
lemma zgfxDecompress_front (zgfx : ZgfxContext) (rest : List UInt8) {size : Nat} (hsize : size < 7) :
    zgfxDecompress zgfx ((bytesUInt8 ZGFX_SEGMENTED_MULTIPART ++ rest).take size) = none := by
  cases size with
  | zero => rfl
  | succ size =>
    have htake : (bytesUInt8 ZGFX_SEGMENTED_MULTIPART ++ rest).take (size + 1) =
      bytesUInt8 ZGFX_SEGMENTED_MULTIPART ++ rest.take size := rfl
    have hunread := WStream.unread_ofBytes (bytesUInt8 ZGFX_SEGMENTED_MULTIPART ++ rest.take size)
    rw [htake]
    simp only [zgfxDecompress]
    generalize WStream.ofBytes _ = stream at hunread ⊢
    have hfirst : ¬ stream.remainingLength < 1 := by
      rw [WStream.remainingLength_eq, hunread, List.length_append]
      exact Nat.not_lt.mpr (Nat.le_add_right 1 _)
    have hfront : (stream.seek 1).remainingLength < 6 := by
      rw [WStream.remainingLength_eq, WStream.unread_seek_append hunread (n := 1) rfl]
      have := List.length_take_le size rest
      omega
    have hother : ZGFX_SEGMENTED_MULTIPART ≠ ZGFX_SEGMENTED_SINGLE := by decide
    rw [if_neg hfirst, WStream.readUInt8_bytes hunread (by decide)]
    simp only [if_neg hother, if_true, if_pos hfront]

lemma zgfxPartCount_lt {src : List UInt8} (h : src.length ≤ 65535 * 65535) :
    zgfxPartCount src < 2 ^ 16 := by
  rw [zgfxPartCount, ZGFX_SEGMENTED_MAXSIZE]
  omega

/-- The whole compressed form is decompressed to the bytes it was made of. -/
lemma zgfxDecompress_encoded (zgfx : ZgfxContext) {flags : Nat} {src : List UInt8}
    (hflags : flags &&& ZGFX_PACKET_COMPRESSED = 0) (hne : src ≠ [])
    (hlength : src.length ≤ 65535 * 65535) :
    ∃ zgfx', zgfxDecompress zgfx (zgfxEncoded flags src) = some (⟨src, src.length⟩, zgfx') := by
  by_cases hshort : src.length ≤ ZGFX_SEGMENTED_MAXSIZE
  · exact zgfxDecompress_single zgfx hflags hne hshort
  · have hencoded : zgfxEncoded flags src = _ := if_neg hshort
    have hsize : src.length < 2 ^ 32 := by omega
    obtain ⟨stream, hunread, hdecompress⟩ := zgfxDecompress_multipart zgfx (zgfxParts flags src)
      (zgfxPartCount_lt hlength) hsize
    obtain ⟨zgfx', hparts⟩ := zgfxDecompressParts_raw hflags hsize src zgfx [] hunread
      (Nat.le_of_eq (Nat.zero_add _))
    have henough : ¬ (zgfxParts flags src).length < zgfxPartCount src * 4 := by
      rw [length_zgfxParts]
      omega
    refine ⟨zgfx', ?_⟩
    rw [hencoded, hdecompress, if_neg henough, hparts]
    rfl

/-- Where the size does not fit, what is left of the compressed form is not accepted. -/
lemma zgfxDecompress_cut (zgfx : ZgfxContext) (flags : Nat) {src : List UInt8}
    (hlength : src.length ≤ 65535 * 65535) (hlong : ZGFX_LARGEST < src.length) :
    zgfxDecompress zgfx ((zgfxEncoded flags src).take
      ((zgfxEncoded flags src).length % 2 ^ 32)) = none := by
  have hmultipart : ZGFX_SEGMENTED_MAXSIZE < src.length := by
    rw [ZGFX_LARGEST] at hlong
    rw [ZGFX_SEGMENTED_MAXSIZE]
    omega
  have hsize : src.length < 2 ^ 32 := by omega
  have hencoded : zgfxEncoded flags src = _ := if_neg (not_le.mpr hmultipart)
  have hcut : (zgfxEncoded flags src).length % 2 ^ 32 < 4 * zgfxPartCount src := by
    have hfew := zgfxPartCount_lt hlength
    have hmany : 65533 ≤ zgfxPartCount src := by
      rw [zgfxPartCount, ZGFX_SEGMENTED_MAXSIZE]
      rw [ZGFX_LARGEST] at hlong
      omega
    rw [ZGFX_LARGEST] at hlong
    rw [length_zgfxEncoded_long flags hmultipart, Nat.mod_eq_sub_mod (by omega),
      Nat.mod_eq_of_lt (by omega)]
    omega
  generalize (zgfxEncoded flags src).length % 2 ^ 32 = size at hcut
  rw [hencoded]
  by_cases hfront : size < 7
  · exact zgfxDecompress_front zgfx _ hfront
  · obtain ⟨size, rfl⟩ := Nat.exists_eq_add_of_le (not_lt.mp hfront)
    have htake : ((bytesUInt8 ZGFX_SEGMENTED_MULTIPART ++ (bytesUInt16 (zgfxPartCount src) ++
        (bytesUInt32 src.length ++ zgfxParts flags src))).take (7 + size)) =
      bytesUInt8 ZGFX_SEGMENTED_MULTIPART ++ (bytesUInt16 (zgfxPartCount src) ++
        (bytesUInt32 src.length ++ (zgfxParts flags src).take size)) := by
      rw [Nat.add_comm]
      rfl
    obtain ⟨stream, -, hdecompress⟩ := zgfxDecompress_multipart zgfx
      ((zgfxParts flags src).take size) (zgfxPartCount_lt hlength) hsize
    have hshort : ((zgfxParts flags src).take size).length < zgfxPartCount src * 4 := by
      have := List.length_take_le size (zgfxParts flags src)
      omega
    rw [htake, hdecompress, if_pos hshort]

/-- The compressed form declares its sizes and counts correctly and is decompressed to the buffer
exactly where its own size fits in 32 bits. -/
theorem zgfxCompress_decompress (zgfx : ZgfxContext) (flags : Nat) (src : List UInt8)
    (hflags : flags &&& ZGFX_PACKET_COMPRESSED = 0) (hne : src ≠ [])
    (hlength : src.length ≤ 65535 * 65535) :
    (zgfxCompress src flags = zgfxEncoded flags src ∧
        (zgfxDecompress zgfx (zgfxCompress src flags)).map Prod.fst = some ⟨src, src.length⟩) ↔
      src.length ≤ ZGFX_LARGEST := by
  constructor
  · rintro ⟨-, hdecompress⟩
    by_contra hlong
    rw [zgfxCompress_eq, zgfxDecompress_cut zgfx flags hlength (not_le.mp hlong)] at hdecompress
    cases hdecompress
  · intro hfits
    have hwhole : zgfxCompress src flags = zgfxEncoded flags src := by
      rw [zgfxCompress_eq, Nat.mod_eq_of_lt ((length_zgfxEncoded_lt_iff flags src).mpr hfits),
        List.take_length]
    obtain ⟨zgfx', hdecompress⟩ := zgfxDecompress_encoded zgfx hflags hne hlength
    rw [hwhole, hdecompress]
    exact ⟨rfl, rfl⟩

theorem zgfxCompress_decompress_two :
    zgfxCompress [7, 9] 0 = zgfxEncoded 0 [7, 9] ∧
      (zgfxDecompress zgfxContextNew (zgfxCompress [7, 9] 0)).map Prod.fst = some ⟨[7, 9], 2⟩ :=
  (zgfxCompress_decompress zgfxContextNew 0 [7, 9] rfl (by decide) (by decide)).mpr (by decide)

/-- The largest buffer the segment format allows for is not restored. -/
theorem zgfxCompress_decompress_largest :
    (zgfxDecompress zgfxContextNew
      (zgfxCompress (List.replicate (65535 * 65535) 0) 0)).map Prod.fst ≠
        some ⟨List.replicate (65535 * 65535) 0, 65535 * 65535⟩ := by
  have hlength : (List.replicate (65535 * 65535) (0 : UInt8)).length = 65535 * 65535 :=
    List.length_replicate
  have hlong : ZGFX_LARGEST < (List.replicate (65535 * 65535) (0 : UInt8)).length := by
    rw [hlength, ZGFX_LARGEST]
    norm_num
  rw [zgfxCompress_eq, zgfxDecompress_cut zgfxContextNew 0 (Nat.le_of_eq hlength) hlong]
  rintro ⟨⟩

end FreeRdp
