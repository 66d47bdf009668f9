import FreeRdp.Library.Bits

/-!
# Windows of a bit string

A bit string is a function `Nat → Bool`, zero from some place on. `window f p n` is the number
whose `n` bits, the highest first, stand at position `p`. Neighbouring windows compose by
multiplication and addition, which is all a reader or a writer with a shift register needs.
-/

namespace FreeRdp

/-- The `n` bits of `f` from position `p` on, the highest first. -/
def window (f : Nat → Bool) (p : Nat) : Nat → Nat
  | 0 => 0
  | n + 1 => 2 * window f p n + (f (p + n)).toNat

section Window

variable {f g : Nat → Bool} {p m n v : Nat}

lemma window_lt (f : Nat → Bool) (p n : Nat) : window f p n < 2 ^ n := by
  induction n with
  | zero => simp [window]
  | succ n ih =>
    have hbit := Bool.toNat_lt (f (p + n))
    rw [window, pow_succ]
    omega

/-- A window splits at every place. -/
lemma window_add (f : Nat → Bool) (p m n : Nat) :
    window f p (m + n) = window f p m * 2 ^ n + window f (p + m) n := by
  induction n with
  | zero => simp [window]
  | succ n ih =>
    rw [← Nat.add_assoc, window, ih, window, pow_succ, Nat.add_assoc p m n]
    ring

lemma window_congr (h : ∀ i, p ≤ i → i < p + n → f i = g i) : window f p n = window g p n := by
  induction n with
  | zero => rfl
  | succ n ih =>
    rw [window, window, ih fun i hp hi => h i hp (by omega), h (p + n) (by omega) (by omega)]

lemma window_eq_zero (h : ∀ i, p ≤ i → f i = false) (n : Nat) : window f p n = 0 := by
  induction n with
  | zero => rfl
  | succ n ih => rw [window, ih, h (p + n) (by omega), Bool.toNat_false]

/-- The front of a window. -/
lemma window_eq_div (f : Nat → Bool) (p m n : Nat) : window f p m = window f p (m + n) / 2 ^ n := by
  have hlt := window_lt f (p + m) n
  rw [window_add, Nat.add_comm, Nat.add_mul_div_right _ _ (Nat.two_pow_pos n),
    Nat.div_eq_of_lt hlt, Nat.zero_add]

/-- A window determines its bits. -/
lemma eq_of_window_eq (h : window f p n = window g p n) {i : Nat} (hi : i < n) :
    f (p + i) = g (p + i) := by
  induction n with
  | zero => omega
  | succ n ih =>
    have hf := Bool.toNat_lt (f (p + n))
    have hg := Bool.toNat_lt (g (p + n))
    rw [window, window] at h
    rcases Nat.lt_succ_iff_lt_or_eq.mp hi with hlt | rfl
    · exact ih (by omega) hlt
    · have hbit : (f (p + i)).toNat = (g (p + i)).toNat := by omega
      cases hf' : f (p + i) <;> cases hg' : g (p + i) <;> simp_all

/-- The bit string `f` with `n` bits of `v` put at position `p`, and nothing after them. -/
def setBits (f : Nat → Bool) (p n v : Nat) : Nat → Bool := fun i =>
  if i < p then f i else decide (i < p + n) && v.testBit (p + n - 1 - i)

lemma setBits_of_lt {i : Nat} (h : i < p) : setBits f p n v i = f i := by
  rw [setBits, if_pos h]

lemma setBits_of_ge {i : Nat} (h : p + n ≤ i) : setBits f p n v i = false := by
  rw [setBits, if_neg (by omega), decide_eq_false (by omega), Bool.false_and]

lemma window_setBits_front (hm : m ≤ n) : window (setBits f p n v) p m = v % 2 ^ n / 2 ^ (n - m) := by
  induction m with
  | zero => rw [window, Nat.sub_zero, Nat.div_eq_of_lt (Nat.mod_lt _ (Nat.two_pow_pos n))]
  | succ m ih =>
    have hbit : (setBits f p n v (p + m)).toNat = v % 2 ^ n / 2 ^ (n - (m + 1)) % 2 := by
      rw [setBits, if_neg (by omega), decide_eq_true (by omega), Bool.true_and,
        show p + n - 1 - (p + m) = n - (m + 1) by omega, ← Nat.toNat_testBit, Nat.testBit_mod_two_pow,
        decide_eq_true (show n - (m + 1) < n by omega), Bool.true_and]
    have hsplit : 2 ^ (n - m) = 2 ^ (n - (m + 1)) * 2 := by
      rw [← pow_succ, show n - (m + 1) + 1 = n - m by omega]
    rw [window, ih (by omega), hbit, hsplit, ← Nat.div_div_eq_div_mul]
    omega

/-- The bits that were put there are read. -/
lemma window_setBits (hv : v < 2 ^ n) : window (setBits f p n v) p n = v := by
  rw [window_setBits_front le_rfl, Nat.sub_self, pow_zero, Nat.div_one, Nat.mod_eq_of_lt hv]

end Window

/-! ### Bytes -/

/-- The bits of a byte string, each byte from its highest bit on. -/
def bitsOf (bytes : List UInt8) : Nat → Bool := fun i =>
  (bytes.getD (i / 8) 0).toNat.testBit (7 - i % 8)

lemma window_bitsOf (bytes : List UInt8) (i : Nat) :
    window (bitsOf bytes) (8 * i) 8 = (bytes.getD i 0).toNat := by
  have hbyte : (bytes.getD i 0).toNat < 2 ^ 8 := (bytes.getD i 0).toNat_lt
  rw [window_congr (g := setBits (fun _ => false) (8 * i) 8 (bytes.getD i 0).toNat),
    window_setBits hbyte]
  intro j hj hj'
  rw [bitsOf, setBits, if_neg (by omega), decide_eq_true hj', Bool.true_and,
    show j / 8 = i by omega, show 8 * i + 8 - 1 - j = 7 - j % 8 by omega]

lemma bitsOf_eq_false {bytes : List UInt8} {i : Nat} (h : 8 * bytes.length ≤ i) :
    bitsOf bytes i = false := by
  rw [bitsOf, List.getD_eq_default _ _ (by omega)]
  simp

/-- A bit string is that of the bytes whose windows it has. -/
lemma bitsOf_eq {bytes : List UInt8} {f : Nat → Bool}
    (hbytes : ∀ i < bytes.length, window f (8 * i) 8 = (bytes.getD i 0).toNat)
    (hend : ∀ i, 8 * bytes.length ≤ i → f i = false) : bitsOf bytes = f := by
  funext i
  by_cases hi : 8 * bytes.length ≤ i
  · rw [bitsOf_eq_false hi, hend i hi]
  · have hwindow : window (bitsOf bytes) (8 * (i / 8)) 8 = window f (8 * (i / 8)) 8 := by
      rw [window_bitsOf, hbytes (i / 8) (by omega)]
    have h := eq_of_window_eq hwindow (i := i % 8) (by omega)
    rwa [show 8 * (i / 8) + i % 8 = i by omega] at h

end FreeRdp
