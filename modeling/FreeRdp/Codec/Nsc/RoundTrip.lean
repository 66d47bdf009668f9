import FreeRdp.Codec.Nsc.Basic
import FreeRdp.Library.Bits

/-!
# The round trip of planes

What the encoder writes when it does not give up is a list of tokens, a run or a byte each, and the
last four bytes. The decoder takes the tokens back one after the other.
-/

namespace FreeRdp

variable {m rle : Nat → UInt8} {originalSize planeBuffersLength fuel rounds : Nat} {e : RleEncoder}
  {d : RleDecoder} {x : UInt8} {xs : List UInt8} {r : Nat}

/-! ### What the encoder writes -/

/-- The encoding of a list after a run of `r - 1` bytes that go before it. -/
def nscTokens : List UInt8 → Nat → List UInt8
  | [], _ => []
  | x :: xs, r =>
    if xs.length < 4 then x :: xs
    else if 4 < xs.length ∧ xs.head? = some x then nscTokens xs (r + 1)
    else nscRunToken x r ++ nscTokens xs 1

lemma uint32Sub_of_le {a b : Nat} (hba : b ≤ a) (ha : a < 2 ^ 32) : uint32Sub a b = a - b := by
  unfold uint32Sub
  omega

lemma length_nscRunToken (x : UInt8) (r : Nat) :
    1 ≤ (nscRunToken x r).length ∧ (nscRunToken x r).length ≤ 7 := by
  unfold nscRunToken
  split
  · exact ⟨le_rfl, Nat.succ_le_succ (Nat.zero_le 6)⟩
  · split
    · exact ⟨Nat.succ_le_succ (Nat.zero_le 2), Nat.le_add_left 3 4⟩
    · exact ⟨Nat.succ_le_succ (Nat.zero_le 6), le_rfl⟩

/-- The loop counts what it writes, and it writes the tokens unless it gives up. -/
lemma nscRleEncodeLoop_spec (hsize : 4 ≤ originalSize) (hmax : originalSize + 16 < 2 ^ 32)
    (hleft : 4 ≤ e.left) (hrounds : e.left ≤ rounds) (hcount : e.planeSize = e.out.length)
    (hbound : e.out.length ≤ originalSize + 2) :
    let e' := nscRleEncodeLoop m originalSize rounds e
    e'.planeSize = e'.out.length ∧ e'.out.length ≤ originalSize + 2 ∧
      (e'.planeSize < originalSize - 4 →
        e'.out ++ readList m e'.pos 4 =
          e.out ++ nscTokens (readList m e.pos e.left) e.runlength) := by
  induction rounds generalizing e with
  | zero => omega
  | succ rounds ih =>
    have hsub : uint32Sub originalSize 4 = originalSize - 4 := uint32Sub_of_le hsize (by omega)
    rw [nscRleEncodeLoop, hsub]
    split
    · rename_i hgo
      obtain ⟨hleft', hgo⟩ := hgo
      obtain ⟨n, hn⟩ : ∃ n, e.left = n + 1 := ⟨e.left - 1, by omega⟩
      have hlist : readList m e.pos e.left = m e.pos :: readList m (e.pos + 1) n := by
        rw [hn, readList_succ]
      have hhead : (readList m (e.pos + 1) n).head? = some (m e.pos) ↔
          m e.pos = m (e.pos + 1) := by
        obtain ⟨k, rfl⟩ : ∃ k, n = k + 1 := ⟨n - 1, by omega⟩
        rw [readList_succ, List.head?_cons, Option.some.injEq, eq_comm]
      have htokens : nscTokens (readList m e.pos e.left) e.runlength =
          if 5 < e.left ∧ m e.pos = m (e.pos + 1) then
            nscTokens (readList m (e.pos + 1) (e.left - 1)) (e.runlength + 1)
          else nscRunToken (m e.pos) e.runlength ++
            nscTokens (readList m (e.pos + 1) (e.left - 1)) 1 := by
        rw [hlist, nscTokens, length_readList, if_neg (by omega), hn, Nat.add_sub_cancel]
        exact if_congr (and_congr (by omega) hhead) rfl rfl
      rw [htokens]
      split
      · rename_i hsame
        exact ih (by dsimp only; omega) (by dsimp only; omega) hcount hbound
      · rename_i hother
        obtain ⟨-, htoken⟩ := length_nscRunToken (m e.pos) e.runlength
        have hnew : (e.out ++ nscRunToken (m e.pos) e.runlength).length =
            e.planeSize + (nscRunToken (m e.pos) e.runlength).length := by
          rw [List.length_append, hcount]
        rw [← List.append_assoc]
        refine ih (by dsimp only; omega) (by dsimp only; omega) ?_ ?_
        · dsimp only
          rw [hnew]
          exact Nat.mod_eq_of_lt (by omega)
        · dsimp only
          rw [hnew]
          omega
    · rename_i hstop
      refine ⟨hcount, hbound, fun hsmall => ?_⟩
      -- The loop has not given up, so the last four bytes are left.
      have hfour : e.left = 4 := by omega
      rw [hfour]
      rfl

/-- What is sent of a plane: the tokens, if they are fewer, or its bytes. -/
lemma nscRleEncode_spec (hmax : originalSize + 16 < 2 ^ 32) :
    (nscRleEncode m originalSize).2.length ≤ originalSize + 16 ∧
      ((nscRleEncode m originalSize).1 < originalSize →
        4 < originalSize ∧
        (nscRleEncode m originalSize).2 = nscTokens (readList m 0 originalSize) 1 ∧
          (nscRleEncode m originalSize).1 = (nscTokens (readList m 0 originalSize) 1).length) := by
  by_cases hsize : 4 ≤ originalSize
  · have hsub : uint32Sub originalSize 4 = originalSize - 4 := uint32Sub_of_le hsize (by omega)
    obtain ⟨hcount, hbound, htokens⟩ := nscRleEncodeLoop_spec (m := m)
      (e := ⟨0, [], originalSize, 1, 0⟩) hsize hmax hsize le_rfl rfl (Nat.zero_le _)
    rw [nscRleEncode, hsub]
    generalize nscRleEncodeLoop m originalSize originalSize ⟨0, [], originalSize, 1, 0⟩ = e' at *
    dsimp only at hcount hbound htokens ⊢
    rw [Nat.mod_eq_of_lt (by omega)]
    split
    · rename_i hsmall
      have hout := htokens hsmall
      rw [List.nil_append] at hout
      refine ⟨?_, fun hlt => ⟨by omega, hout, ?_⟩⟩
      · rw [List.length_append, length_readList]
        omega
      · rw [← hout, List.length_append, length_readList, hcount]
    · exact ⟨by omega, fun hlt => by omega⟩
  · -- The plane is not as long as the bytes that are copied at the end.
    have hstop : nscRleEncodeLoop m originalSize originalSize ⟨0, [], originalSize, 1, 0⟩ =
        ⟨0, [], originalSize, 1, 0⟩ := by
      cases originalSize with
      | zero => rfl
      | succ n => rw [nscRleEncodeLoop, if_neg (by dsimp only; omega)]
    have hout : (nscRleEncode m originalSize).2.length ≤ 4 := by
      rw [nscRleEncode, hstop]
      dsimp only
      split
      · rw [List.nil_append, length_readList]
      · exact Nat.zero_le _
    have hcount : (nscRleEncode m originalSize).1 = 4 := by
      rw [nscRleEncode, hstop]
      rfl
    refine ⟨by omega, fun hlt => by omega⟩

/-! ### What the decoder reads -/

/-- The tokens begin with the first byte of the list. -/
lemma head?_nscTokens (hlength : 4 ≤ xs.length) : (nscTokens xs r).head? = xs.head? := by
  induction xs generalizing r with
  | nil => rfl
  | cons x xs ih =>
    rw [nscTokens]
    split
    · rfl
    · split
      · rename_i hlt hrun
        rw [ih (by omega), hrun.2]
        rfl
      · unfold nscRunToken
        split
        · rfl
        · split <;> rfl

lemma or_bytes_eq_add {a b c : Nat} (ha : a < 2 ^ 8) (hb : b < 2 ^ 8) (hc : c < 2 ^ 8) (d : Nat) :
    a ||| b <<< 8 ||| c <<< 16 ||| d <<< 24 = a + b * 2 ^ 8 + c * 2 ^ 16 + d * 2 ^ 24 := by
  rw [or_shiftLeft_eq_add ha, or_shiftLeft_eq_add (show b * 2 ^ 8 + a < 2 ^ 16 by omega),
    or_shiftLeft_eq_add (show c * 2 ^ 16 + (b * 2 ^ 8 + a) < 2 ^ 24 by omega)]
  omega

lemma nscRunLength_eq {n : Nat} {i : Nat} (hn : n < 2 ^ 32)
    (h0 : rle i = UInt8.ofNat (n &&& 0x000000FF))
    (h1 : rle (i + 1) = UInt8.ofNat ((n &&& 0x0000FF00) >>> 8))
    (h2 : rle (i + 2) = UInt8.ofNat ((n &&& 0x00FF0000) >>> 16))
    (h3 : rle (i + 3) = UInt8.ofNat ((n &&& 0xFF000000) >>> 24)) : nscRunLength rle i = n := by
  have hmask0 : n &&& 0x000000FF = n % 256 := and_mask_eq_mod n 8
  have hmask1 : n &&& 0x0000FF00 = n / 2 ^ 8 % 2 ^ 8 * 2 ^ 8 := and_mask_shiftLeft n 8 8
  have hmask2 : n &&& 0x00FF0000 = n / 2 ^ 16 % 2 ^ 8 * 2 ^ 16 := and_mask_shiftLeft n 8 16
  have hmask3 : n &&& 0xFF000000 = n / 2 ^ 24 % 2 ^ 8 * 2 ^ 24 := and_mask_shiftLeft n 8 24
  rw [nscRunLength, h0, h1, h2, h3, hmask0, hmask1, hmask2, hmask3]
  simp only [UInt8.toNat_ofNat', Nat.shiftRight_eq_div_pow]
  rw [or_bytes_eq_add (Nat.mod_lt _ (by decide)) (Nat.mod_lt _ (by decide))
    (Nat.mod_lt _ (by decide))]
  omega

/-- A round takes a token back. After a byte by itself comes another one, unless it is the fifth
last. -/
lemma nscRleRound_token (hr : 1 ≤ r) (hleft : r + 4 ≤ d.left) (hroom : r ≤ d.outSize)
    (hmax : d.left < 2 ^ 32) (hnext : r = 1 → d.left ≠ 5 → rle (d.pos + 1) ≠ x)
    (hlooked : d.looked ≤ d.pos + 1)
    (hread : readList rle d.pos (nscRunToken x r).length = nscRunToken x r) :
    ∃ d', nscRleRound rle d = .next d' ∧ d'.pos = d.pos + (nscRunToken x r).length ∧
      d'.out = d.out ++ List.replicate r x ∧ d'.outSize = d.outSize - r ∧ d'.left = d.left - r ∧
      d'.looked ≤ d'.pos + 1 ∧ d'.overrun = d.overrun := by
  have hsub : uint32Sub d.left r = d.left - r := uint32Sub_of_le (by omega) hmax
  have hfits : (d.left < r) = False := eq_false (by omega)
  rw [nscRleRound, if_pos (by omega)]
  by_cases hone : r = 1
  · -- a byte by itself
    subst hone
    have htoken : nscRunToken x 1 = [x] := rfl
    rw [htoken] at hread ⊢
    have hvalue : rle d.pos = x := (List.cons.inj hread).1
    by_cases h5 : d.left = 5
    · rw [if_pos h5, hvalue]
      rw [RleDecoder.literal, if_neg (by dsimp only [RleDecoder.look]; omega)]
      exact ⟨_, rfl, rfl, rfl, rfl, rfl, by dsimp only [RleDecoder.look]; omega, rfl⟩
    · rw [if_neg h5, hvalue, if_neg (Ne.symm (hnext rfl h5))]
      rw [RleDecoder.literal, if_neg (by dsimp only [RleDecoder.look]; omega)]
      exact ⟨_, rfl, rfl, rfl, rfl, rfl, by dsimp only [RleDecoder.look]; omega, rfl⟩
  by_cases hshort : r < 256
  · have htoken : nscRunToken x r = [x, x, UInt8.ofNat (r - 2)] := by
      rw [nscRunToken, if_neg hone, if_pos hshort]
    rw [htoken] at hread ⊢
    obtain ⟨hvalue, hsame, hcount⟩ : rle d.pos = x ∧ rle (d.pos + 1) = x ∧
        rle (d.pos + 2) = UInt8.ofNat (r - 2) := by
      simp only [List.length_cons, List.length_nil, readList_succ, List.cons.injEq] at hread
      exact ⟨hread.1, hread.2.1, hread.2.2.1⟩
    have hlen : (UInt8.ofNat (r - 2)).toNat = r - 2 := by
      rw [UInt8.toNat_ofNat']
      omega
    rw [if_neg (by omega), hvalue, hsame, if_pos rfl, hcount, hlen, if_pos (by omega),
      show r - 2 + 2 = r by omega, RleDecoder.run, if_neg (by dsimp only [RleDecoder.look]; omega)]
    simp only [RleDecoder.look, hsub, hfits, decide_false, Bool.or_false]
    exact ⟨_, rfl, rfl, rfl, rfl, rfl, by dsimp only; omega, rfl⟩
  · have htoken : nscRunToken x r = [x, x, 0xFF, UInt8.ofNat (r &&& 0x000000FF),
        UInt8.ofNat ((r &&& 0x0000FF00) >>> 8), UInt8.ofNat ((r &&& 0x00FF0000) >>> 16),
        UInt8.ofNat ((r &&& 0xFF000000) >>> 24)] := by
      rw [nscRunToken, if_neg hone, if_neg hshort]
    rw [htoken] at hread ⊢
    obtain ⟨hvalue, hsame, hmark, h0, h1, h2, h3⟩ : rle d.pos = x ∧ rle (d.pos + 1) = x ∧
        rle (d.pos + 2) = 0xFF ∧ rle (d.pos + 3) = UInt8.ofNat (r &&& 0x000000FF) ∧
        rle (d.pos + 4) = UInt8.ofNat ((r &&& 0x0000FF00) >>> 8) ∧
        rle (d.pos + 5) = UInt8.ofNat ((r &&& 0x00FF0000) >>> 16) ∧
        rle (d.pos + 6) = UInt8.ofNat ((r &&& 0xFF000000) >>> 24) := by
      simp only [List.length_cons, List.length_nil, readList_succ, List.cons.injEq] at hread
      obtain ⟨hvalue, hsame, hmark, h0, h1, h2, h3, -⟩ := hread
      exact ⟨hvalue, hsame, hmark, h0, h1, h2, h3⟩
    have hlen : nscRunLength rle (d.pos + 3) = r := nscRunLength_eq (by omega) h0 h1 h2 h3
    rw [if_neg (by omega), hvalue, hsame, if_pos rfl, hmark, if_neg (by decide), hlen,
      RleDecoder.run, if_neg (by dsimp only [RleDecoder.look]; omega)]
    simp only [RleDecoder.look, hsub, hfits, decide_false, Bool.or_false]
    exact ⟨_, rfl, rfl, rfl, rfl, rfl, by dsimp only; omega, rfl⟩

lemma nscTokens_ne_nil (hlength : 4 ≤ xs.length) : nscTokens xs r ≠ [] := by
  intro hnil
  have hhead := head?_nscTokens (r := r) hlength
  rw [hnil, List.head?_nil, eq_comm, List.head?_eq_none_iff] at hhead
  rw [hhead] at hlength
  exact absurd hlength (by decide)

/-- The tokens bring back the list and the bytes of the run before it. -/
lemma loop_nscTokens (hlength : 4 ≤ xs.length) (hr : 1 ≤ r) (hrun : 1 < r → 5 ≤ xs.length)
    (hleft : d.left = r - 1 + xs.length) (hroom : d.left ≤ d.outSize) (hmax : d.left < 2 ^ 32)
    (hlooked : d.looked ≤ d.pos + 1) (hoverrun : d.overrun = false) (hfuel : xs.length ≤ fuel)
    (hread : readList rle d.pos (nscTokens xs r).length = nscTokens xs r) :
    loop (nscRleRound rle) fuel d = some ⟨true,
      d.out ++ (List.replicate (r - 1) (xs.headD 0) ++ xs), d.pos + (nscTokens xs r).length,
      false⟩ := by
  induction xs generalizing r d fuel with
  | nil => simp at hlength
  | cons x xs ih =>
    rw [List.length_cons] at hlength hleft hrun hfuel
    obtain ⟨fuel, rfl⟩ : ∃ n, fuel = n + 1 := ⟨fuel - 1, by omega⟩
    by_cases hlast : xs.length < 4
    · -- the last four bytes
      have hone : r = 1 := by omega
      subst hone
      rw [nscTokens, if_pos hlast] at hread ⊢
      have hfour : readList rle d.pos 4 = x :: xs := by
        rw [← hread, List.length_cons, show xs.length + 1 = 4 by omega]
      have hlook : max d.looked (d.pos + 4) = d.pos + (xs.length + 1) := by omega
      rw [loop, nscRleRound, if_neg (by omega), if_neg (by omega), RleDecoder.stop]
      simp only [RleDecoder.look, hfour, hlook, hoverrun, List.length_cons]
      rfl
    by_cases hsame : 4 < xs.length ∧ xs.head? = some x
    · -- the run goes on
      obtain ⟨ys, rfl⟩ : ∃ ys, xs = x :: ys := by
        cases xs with
        | nil => cases hsame.2
        | cons y ys =>
          obtain rfl := Option.some.inj hsame.2
          exact ⟨ys, rfl⟩
      rw [nscTokens, if_neg hlast, if_pos hsame] at hread ⊢
      rw [ih (by omega) (by omega) (by omega) (by omega) hroom hmax hlooked hoverrun (by omega)
        hread]
      have hrun : List.replicate (r + 1 - 1) x ++ x :: ys =
          List.replicate (r - 1) x ++ x :: x :: ys := by
        obtain ⟨k, rfl⟩ : ∃ k, r = k + 1 := ⟨r - 1, by omega⟩
        simp [List.replicate_succ']
      simp only [List.headD_cons, hrun]
    · -- a token
      rw [nscTokens, if_neg hlast, if_neg hsame] at hread ⊢
      rw [List.length_append, readList_add] at hread
      obtain ⟨htoken, hrest⟩ := List.append_inj hread (length_readList ..)
      have hnext : r = 1 → d.left ≠ 5 → rle (d.pos + 1) ≠ x := by
        rintro rfl h5 hx
        have hhead : (nscTokens xs 1).head? = xs.head? := head?_nscTokens (by omega)
        cases htokens : nscTokens xs 1 with
        | nil => exact nscTokens_ne_nil (by omega) htokens
        | cons y ys =>
          rw [htokens] at hrest hhead
          have hy : rle (d.pos + 1) = y := (List.cons.inj hrest).1
          rw [← hhead, List.head?_cons, ← hy, hx] at hsame
          exact hsame ⟨by omega, rfl⟩
      obtain ⟨d', hround, hpos, hout, houtSize, hleft', hlooked', hoverrun'⟩ :=
        nscRleRound_token hr (by omega) (by omega) hmax hnext hlooked htoken
      rw [← hpos] at hrest
      rw [loop, hround]
      dsimp only
      rw [ih (by omega) le_rfl (by omega) (by omega) (by omega) (by omega) hlooked'
        (hoverrun'.trans hoverrun) (by omega) hrest]
      have hrun : List.replicate r x ++ xs = List.replicate (r - 1) x ++ x :: xs := by
        obtain ⟨k, rfl⟩ : ∃ k, r = k + 1 := ⟨r - 1, by omega⟩
        simp [List.replicate_succ']
      simp only [List.headD_cons, Nat.sub_self, List.replicate_zero, List.nil_append, hout, hpos,
        List.append_assoc, hrun, List.length_append, Nat.add_assoc]

/-- What is sent of a plane, and its number of bytes, bring the plane back, and the decoder looks at
no more bytes. -/
lemma nscDecompressPlane_nscCompressPlane (hmax : originalSize + 16 < 2 ^ 32)
    (hroom : originalSize ≤ planeBuffersLength) (hfuel : originalSize ≤ fuel)
    (hread : readList rle 0 (nscCompressPlane m originalSize).2.length =
      (nscCompressPlane m originalSize).2) :
    (nscCompressPlane m originalSize).2.length = (nscCompressPlane m originalSize).1 ∧
      nscDecompressPlane rle planeBuffersLength originalSize (nscCompressPlane m originalSize).1
          fuel =
        some ⟨true, readList m 0 originalSize, (nscCompressPlane m originalSize).1, false⟩ := by
  unfold nscCompressPlane at hread ⊢
  split
  · rename_i hzero
    subst hzero
    refine ⟨rfl, ?_⟩
    rw [nscDecompressPlane, if_pos rfl, if_neg (by omega)]
    rfl
  · rename_i hpos
    rw [if_neg hpos] at hread
    obtain ⟨-, htokens⟩ := nscRleEncode_spec (m := m) hmax
    generalize nscRleEncode m originalSize = sent at hread htokens ⊢
    obtain ⟨planeSize, out⟩ := sent
    dsimp only at hread htokens ⊢
    split
    · rename_i hsmall
      obtain ⟨hfour, rfl, rfl⟩ := htokens hsmall
      rw [if_pos hsmall, List.take_length] at hread
      rw [List.take_length]
      refine ⟨rfl, ?_⟩
      have hlength : (readList m 0 originalSize).length = originalSize := length_readList ..
      have hne : nscTokens (readList m 0 originalSize) 1 ≠ [] := nscTokens_ne_nil (by omega)
      rw [nscDecompressPlane, if_neg (List.length_pos_iff.mpr hne).ne', if_pos hsmall, nscRleDecode,
        loop_nscTokens (by omega) le_rfl (by omega) (by dsimp only; omega) hroom
          (by dsimp only; omega) (Nat.zero_le _) rfl (by omega) hread]
      simp
    · rename_i hlarge
      rw [if_neg hlarge] at hread
      refine ⟨length_readList .., ?_⟩
      rw [nscDecompressPlane, if_neg hpos, if_neg (by omega), if_neg (by omega)]
      rw [length_readList] at hread
      rw [hread]

/-- **The round trip.** What is sent of the planes, one behind the other, brings the planes back:
each one is decoded, from as many bytes as its `PlaneByteCount` says. The encoder stays in its
buffer. -/
theorem nscRleDecompressData_nscRleCompressData {planes : List ((Nat → UInt8) × Nat)}
    (hmax : ∀ p ∈ planes, p.2 + 16 < 2 ^ 32) (hroom : ∀ p ∈ planes, p.2 ≤ planeBuffersLength)
    (hfuel : ∀ p ∈ planes, p.2 ≤ fuel)
    (hread : readList rle 0 ((nscRleCompressData planes).flatMap (·.2)).length =
      (nscRleCompressData planes).flatMap (·.2)) :
    (∀ p ∈ planes, (nscRleEncode p.1 p.2).2.length ≤ p.2 + 16) ∧
      nscRleDecompressData rle planeBuffersLength fuel
          (planes.map fun p => (p.2, (nscCompressPlane p.1 p.2).1)) =
        some (planes.map fun p =>
          ⟨true, readList p.1 0 p.2, (nscCompressPlane p.1 p.2).1, false⟩) := by
  refine ⟨fun p hp => (nscRleEncode_spec (hmax p hp)).1, ?_⟩
  induction planes generalizing rle with
  | nil => rfl
  | cons p planes ih =>
    rw [List.forall_mem_cons] at hmax hroom hfuel
    simp only [nscRleCompressData, List.map_cons, List.flatMap_cons, List.length_append,
      readList_add] at hread
    obtain ⟨hplane, hrest⟩ := List.append_inj hread (length_readList ..)
    obtain ⟨hsize, hdecode⟩ := nscDecompressPlane_nscCompressPlane hmax.1 hroom.1 hfuel.1 hplane
    rw [List.map_cons, nscRleDecompressData, hdecode]
    dsimp only
    have hrest' : readList (fun i => rle ((nscCompressPlane p.1 p.2).1 + i)) 0
        ((nscRleCompressData planes).flatMap (·.2)).length =
        (nscRleCompressData planes).flatMap (·.2) := by
      rw [readList_shift, ← hsize]
      rwa [Nat.zero_add] at hrest
    rw [if_pos rfl, ih hmax.2 hroom.2 hfuel.2 hrest']
    rfl

lemma roundUpTo_eight (b : Nat) : roundUpTo b 8 = (b + 7) / 8 * 8 := by
  have hb : b &&& 8 - 1 = b % 8 := and_mask_eq_mod b 3
  have hneg : uint32Sub 0 (b % 8) &&& 8 - 1 = uint32Sub 0 (b % 8) % 8 := and_mask_eq_mod _ 3
  rw [roundUpTo, hb, hneg, uint32Sub]
  omega

lemma roundUpTo_two (b : Nat) : roundUpTo b 2 = (b + 1) / 2 * 2 := by
  have hb : b &&& 2 - 1 = b % 2 := and_mask_eq_mod b 1
  have hneg : uint32Sub 0 (b % 2) &&& 2 - 1 = uint32Sub 0 (b % 2) % 2 := and_mask_eq_mod _ 1
  rw [roundUpTo, hb, hneg, uint32Sub]
  omega

/-- The planes of a picture are as short as the round trip asks for. -/
lemma nscOrgByteCount_lt {width height chromaSubsamplingLevel : Nat} (hw : width < 2 ^ 16)
    (hh : height < 2 ^ 16) :
    ∀ n ∈ nscOrgByteCount width height chromaSubsamplingLevel, n + 16 < 2 ^ 32 := by
  have hplane : width * height ≤ 65535 * 65535 := Nat.mul_le_mul (by omega) (by omega)
  have hluma : (width + 7) / 8 * 8 * height ≤ 65536 * 65535 :=
    Nat.mul_le_mul (by omega) (by omega)
  have hchroma : ((width + 7) / 8 * 8 / 2) * ((height + 1) / 2 * 2 / 2) ≤ 32768 * 32768 :=
    Nat.mul_le_mul (by omega) (by omega)
  have hmod : ∀ n : Nat, n ≤ 4294901760 → n % 2 ^ 32 + 16 < 2 ^ 32 := fun n hn => by omega
  intro n hn
  rw [nscOrgByteCount, roundUpTo_eight, roundUpTo_two, Nat.shiftRight_eq_div_pow,
    Nat.shiftRight_eq_div_pow] at hn
  split at hn
  · simp only [List.mem_cons, List.not_mem_nil, or_false] at hn
    rcases hn with rfl | rfl | rfl | rfl
    · exact hmod _ hluma
    · exact hmod _ (hchroma.trans (by decide))
    · exact hmod _ (hchroma.trans (by decide))
    · exact hmod _ (hplane.trans (by decide))
  · simp only [List.mem_cons, List.not_mem_nil, or_false, or_self] at hn
    rw [hn]
    exact hmod _ (hplane.trans (by decide))

/-- A plane of nine bytes with a run. -/
theorem nscRleDecompressData_nscRleCompressData_run :
    (∀ p ∈ [((fun _ => 7 : Nat → UInt8), 9)], (nscRleEncode p.1 p.2).2.length ≤ p.2 + 16) ∧
      nscRleDecompressData (fun i => [7, 7, 3, 7, 7, 7, 7].getD i 0) 9 9
          ([((fun _ => 7 : Nat → UInt8), 9)].map fun p => (p.2, (nscCompressPlane p.1 p.2).1)) =
        some ([((fun _ => 7 : Nat → UInt8), 9)].map fun p =>
          ⟨true, readList p.1 0 p.2, (nscCompressPlane p.1 p.2).1, false⟩) :=
  nscRleDecompressData_nscRleCompressData (by decide) (by decide) (by decide) (by decide)

end FreeRdp
