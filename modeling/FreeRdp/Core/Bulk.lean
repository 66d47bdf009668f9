import FreeRdp.Winpr.Stream

/-!
# Bulk compression

`bulk_compress` and `bulk_decompress` around the codecs of the compression levels. A codec is an
argument here: what it has to do for its peer is stated by `BulkCodec.RoundTrips`.
-/

namespace FreeRdp

def BULK_COMPRESSION_FLAGS_MASK : Nat := 0xE0
def BULK_COMPRESSION_TYPE_MASK : Nat := 0x0F

/-- The compressors and the decompressors behind `rdpBulk`, with the states of their contexts.
`compress` is given the compression level and returns the output with its flags, `none` for a
negative status; `decompress` is given the compression type and the flags of the packet. -/
structure BulkCodec (σ ρ : Type*) where
  compress : Nat → σ → List UInt8 → Option (List UInt8 × Nat) × σ
  decompress : Nat → ρ → List UInt8 → Nat → Option (List UInt8) × ρ

/-- `bulk_compression_level`. -/
def bulkCompressionLevel (compressionLevel : Nat) : Nat :=
  if compressionLevel ≥ 3 then 3 else compressionLevel

/-- `bulk_compression_max_size`. -/
def bulkCompressionMaxSize (compressionLevel : Nat) : Nat :=
  if bulkCompressionLevel compressionLevel < 1 then 8192 else 65536

variable {σ ρ : Type*}

/-- `bulk_compress`: small and large packets are left alone, with status 0 and no flags. -/
def bulkCompress (codec : BulkCodec σ ρ) (compressionLevel : Nat) (context : σ)
    (src : List UInt8) : Option (List UInt8 × Nat) × σ :=
  if src.length ≤ 50 ∨ src.length ≥ 16384 then (some (src, 0), context)
  else codec.compress (bulkCompressionLevel compressionLevel) context src

/-- `bulk_decompress`: a packet without any of the three packet flags is passed on as it is. -/
def bulkDecompress (codec : BulkCodec σ ρ) (context : ρ) (src : List UInt8) (flags : Nat) :
    Option (List UInt8) × ρ :=
  let type := flags &&& BULK_COMPRESSION_TYPE_MASK
  if flags &&& BULK_COMPRESSION_FLAGS_MASK ≠ 0 then
    if type ≤ 3 then codec.decompress type context src flags else (none, context)
  else (some src, context)

/-- The codec round-trips: while the two contexts are in `Sync`, whatever a call compresses comes
out of the peer's `bulk_decompress` as it went in, and the contexts stay in `Sync`. A call that
fails or reports no flags leaves nothing for the peer to do. The output fits a fast-path update:
its flags are one byte, and it is hardly longer than the input. -/
structure BulkCodec.RoundTrips (codec : BulkCodec σ ρ) (Sync : σ → ρ → Prop) : Prop where
  failed : ∀ {level s r src s'}, Sync s r → 50 < src.length → src.length < 16384 →
    codec.compress level s src = (none, s') → Sync s' r
  plain : ∀ {level s r src dst s'}, Sync s r → 50 < src.length → src.length < 16384 →
    codec.compress level s src = (some (dst, 0), s') → Sync s' r
  compressed : ∀ {level s r src dst flags s'}, Sync s r → 50 < src.length → src.length < 16384 →
    codec.compress level s src = (some (dst, flags), s') → flags ≠ 0 →
    flags < 256 ∧ dst.length ≤ src.length + 2 ∧
      ∃ r', bulkDecompress codec r dst flags = (some src, r') ∧ Sync s' r'

/-- The same of `bulk_compress`, which leaves some packets alone. -/
lemma BulkCodec.RoundTrips.bulk {codec : BulkCodec σ ρ} {Sync : σ → ρ → Prop}
    (h : codec.RoundTrips Sync) (level : Nat) {s : σ} {r : ρ} (hsync : Sync s r)
    (src : List UInt8) :
    match bulkCompress codec level s src with
    | (some (dst, flags), s') =>
      if flags = 0 then Sync s' r
      else flags < 256 ∧ dst.length ≤ src.length + 2 ∧
        ∃ r', bulkDecompress codec r dst flags = (some src, r') ∧ Sync s' r'
    | (none, s') => Sync s' r := by
  simp only [bulkCompress]
  by_cases hsize : src.length ≤ 50 ∨ src.length ≥ 16384
  · simpa only [if_pos hsize, if_true] using hsync
  · simp only [if_neg hsize]
    rw [not_or, not_le, ge_iff_le, not_le] at hsize
    rcases hc : codec.compress (bulkCompressionLevel level) s src with ⟨_ | ⟨dst, flags⟩, s'⟩
    · exact h.failed hsync hsize.1 hsize.2 hc
    · by_cases hflags : flags = 0
      · subst hflags
        exact h.plain hsync hsize.1 hsize.2 hc
      · simp only [if_neg hflags]
        exact h.compressed hsync hsize.1 hsize.2 hc hflags

end FreeRdp
