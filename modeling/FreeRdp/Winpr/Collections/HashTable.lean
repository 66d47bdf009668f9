import FreeRdp.Library.Buckets
import FreeRdp.Library.Runs
import Mathlib.NumberTheory.Bertrand

/-!
# Hash tables

`HashTable.c`: a table of chains of key-value pairs, which is rehashed to another number of chains
when it has become too full or too empty. A pointer is an `Option`, with `none` for `NULL`.

Whether a table is too full or too empty is a comparison of floating-point numbers; its outcome is
an argument of the operations, as is whether an allocation succeeds. Locks, and the callbacks that
free keys and values, are left out.
-/

namespace FreeRdp

/-- `wKeyValuePair`; a chain of them is a list. -/
structure KeyValuePair (K V : Type) where
  key : Option K
  value : Option V

/-- The callbacks of a table and its `(int)idealRatio`. Keys that compare equal have the same hash,
and a cloned key is equal to the key: so it is for pointers and for strings. -/
structure HashTableFunctions (K V : Type) where
  hash : Option K → Nat
  keyCompare : Option K → Option K → Bool
  keyClone : Option (K → K)
  valueClone : Option (V → V)
  idealRatio : Nat
  keyCompare_refl : ∀ a, keyCompare a a = true
  keyCompare_symm : ∀ a b, keyCompare a b = true → keyCompare b a = true
  keyCompare_trans : ∀ a b c, keyCompare a b = true → keyCompare b c = true → keyCompare a c = true
  hash_eq : ∀ a b, keyCompare a b = true → hash a = hash b
  keyClone_eq : ∀ clone, keyClone = some clone → ∀ k, keyCompare (some k) (some (clone k)) = true
  idealRatio_pos : 0 < idealRatio

/-- `HashTable_PointerCompare`, for addresses. -/
def hashTablePointerCompare (pointer1 pointer2 : Option UInt64) : Bool := pointer1 = pointer2

/-- `HashTable_PointerHash`. -/
def hashTablePointerHash (pointer : Option UInt64) : Nat :=
  ((pointer.getD 0).toUInt32 >>> 4).toNat

/-- The callbacks that `HashTable_New` sets. -/
def hashTablePointerFunctions (V : Type) : HashTableFunctions UInt64 V where
  hash := hashTablePointerHash
  keyCompare := hashTablePointerCompare
  keyClone := none
  valueClone := none
  idealRatio := 3
  keyCompare_refl _ := decide_eq_true rfl
  keyCompare_symm _ _ h := decide_eq_true (of_decide_eq_true h).symm
  keyCompare_trans _ _ _ hab hbc :=
    decide_eq_true ((of_decide_eq_true hab).trans (of_decide_eq_true hbc))
  hash_eq _ _ h := congrArg hashTablePointerHash (of_decide_eq_true h)
  keyClone_eq _ h := nomatch h
  idealRatio_pos := by decide

/-- `HashTable_StringCompare`; a string is the bytes before its zero. -/
def hashTableStringCompare (string1 string2 : Option (List UInt8)) : Bool := string1 = string2

/-- The loop of `HashTable_StringHash`. -/
def djb2 (hash : UInt32) : List UInt8 → UInt32
  | [] => hash
  | c :: str => djb2 (hash * 33 + c.toUInt32) str

/-- `HashTable_StringHash`. It reads `NULL` as a string, which no table gives it: such a key is the
empty string here. -/
def hashTableStringHash (key : Option (List UInt8)) : Nat := (djb2 5381 (key.getD [])).toNat

/-- `HashTable_StringClone`: the copy is the same string. -/
def hashTableStringClone (str : List UInt8) : List UInt8 := str

/-- The callbacks of a table whose keys are strings. -/
def hashTableStringFunctions {V : Type} (valueClone : Option (V → V)) :
    HashTableFunctions (List UInt8) V where
  hash := hashTableStringHash
  keyCompare := hashTableStringCompare
  keyClone := some hashTableStringClone
  valueClone := valueClone
  idealRatio := 3
  keyCompare_refl _ := decide_eq_true rfl
  keyCompare_symm _ _ h := decide_eq_true (of_decide_eq_true h).symm
  keyCompare_trans _ _ _ hab hbc :=
    decide_eq_true ((of_decide_eq_true hab).trans (of_decide_eq_true hbc))
  hash_eq _ _ h := congrArg hashTableStringHash (of_decide_eq_true h)
  keyClone_eq clone h k := by
    cases h
    exact decide_eq_true rfl
  idealRatio_pos := by decide

/-- `wHashTable`. -/
structure HashTable (K V : Type) where
  numOfBuckets : Nat
  numOfElements : Nat
  bucketArray : List (List (KeyValuePair K V))

/-- `HashTable_New`. -/
def hashTableNew {K V : Type} : HashTable K V := ⟨64, 0, List.replicate 64 []⟩

/-! ### The number of buckets -/

/-- The loop of `HashTable_IsProbablePrime` over the numbers `is`. -/
def isProbablePrimeLoop (oddNumber : Nat) : List Nat → Bool
  | [] => true
  | i :: is =>
    if oddNumber = i then true
    else if oddNumber % i = 0 then false
    else isProbablePrimeLoop oddNumber is

/-- `HashTable_IsProbablePrime`: the odd numbers from 3 to 49 are tried. -/
def hashTableIsProbablePrime (oddNumber : Nat) : Bool :=
  isProbablePrimeLoop oddNumber (List.range' 3 24 2)

/-- The loop of `HashTable_CalculateIdealNumOfBuckets`, with fuel. -/
def nextProbablePrime : Nat → Nat → Nat
  | 0, n => n
  | fuel + 1, n => if hashTableIsProbablePrime n then n else nextProbablePrime fuel (n + 2)

/-- `HashTable_CalculateIdealNumOfBuckets`, for a number of elements. -/
def hashTableCalculateIdealNumOfBuckets (idealRatio numOfElements : Nat) : Nat :=
  let ideal := numOfElements / idealRatio
  let ideal := if ideal < 5 then 5 else ideal ||| 1
  nextProbablePrime ideal ideal

lemma isProbablePrimeLoop_of_prime {p : Nat} (hp : p.Prime) :
    ∀ is : List Nat, (∀ i ∈ is, i ≠ 1) → isProbablePrimeLoop p is = true
  | [], _ => rfl
  | i :: is, his => by
    rw [isProbablePrimeLoop]
    split
    · rfl
    rename_i hne
    rw [if_neg]
    · exact isProbablePrimeLoop_of_prime hp is fun j hj => his j (List.mem_cons_of_mem i hj)
    · intro hmod
      rcases (Nat.dvd_prime hp).mp (Nat.dvd_of_mod_eq_zero hmod) with hone | heq
      · exact his i List.mem_cons_self hone
      · exact hne heq.symm

lemma nextProbablePrime_spec {fuel n : Nat}
    (h : ∃ j ≤ fuel, hashTableIsProbablePrime (n + 2 * j) = true) :
    hashTableIsProbablePrime (nextProbablePrime fuel n) = true ∧ n ≤ nextProbablePrime fuel n := by
  induction fuel generalizing n with
  | zero =>
    obtain ⟨j, hj, hprime⟩ := h
    obtain rfl : j = 0 := Nat.le_zero.mp hj
    exact ⟨hprime, le_rfl⟩
  | succ fuel ih =>
    rw [nextProbablePrime]
    split
    · exact ⟨‹_›, le_rfl⟩
    rename_i hn
    obtain ⟨j, hj, hprime⟩ := h
    cases j with
    | zero => exact absurd hprime hn
    | succ j =>
      have hnext := ih (n := n + 2)
        ⟨j, Nat.le_of_succ_le_succ hj, by rw [← hprime]; congr 1; ring⟩
      exact ⟨hnext.1, by omega⟩

/-- The loop ends, at a number that passes the test, since there is a prime between an odd number
and its double. -/
lemma hashTableCalculateIdealNumOfBuckets_spec (idealRatio numOfElements : Nat) :
    hashTableIsProbablePrime (hashTableCalculateIdealNumOfBuckets idealRatio numOfElements) = true ∧
      5 ≤ hashTableCalculateIdealNumOfBuckets idealRatio numOfElements := by
  unfold hashTableCalculateIdealNumOfBuckets
  dsimp only
  obtain ⟨n, hn⟩ : ∃ n, (if numOfElements / idealRatio < 5 then 5
    else numOfElements / idealRatio ||| 1) = n := ⟨_, rfl⟩
  have hodd : n % 2 = 1 ∧ 5 ≤ n := by
    split at hn
    · omega
    · have hle : numOfElements / idealRatio ≤ numOfElements / idealRatio ||| 1 := Nat.left_le_or
      have hbit : (numOfElements / idealRatio ||| 1).testBit 0 = true := by
        rw [Nat.testBit_or, show Nat.testBit 1 0 = true from rfl, Bool.or_true]
      rw [Nat.testBit_zero, decide_eq_true_eq] at hbit
      omega
  rw [hn]
  obtain ⟨p, hp, hlt, hle⟩ := Nat.exists_prime_lt_and_le_two_mul n (by omega)
  have hpodd : p % 2 = 1 := (hp.eq_two_or_odd).resolve_left (by omega)
  have hprime : ∃ j ≤ n, hashTableIsProbablePrime (n + 2 * j) = true := by
    refine ⟨(p - n) / 2, by omega, ?_⟩
    rw [show n + 2 * ((p - n) / 2) = p by omega]
    exact isProbablePrimeLoop_of_prime hp _ (by decide)
  obtain ⟨hspec, hge⟩ := nextProbablePrime_spec hprime
  exact ⟨hspec, hodd.2.trans hge⟩

/-! ### Operations -/

section Operations

variable {K V : Type} (F : HashTableFunctions K V)

/-- All pairs, in the order of the buckets and their chains. -/
def HashTable.pairs (table : HashTable K V) : List (KeyValuePair K V) := table.bucketArray.flatten

/-- `HashTable_Rehash`: each pair goes to the front of its new chain. -/
def hashTableRehash (calloc : Bool) (table : HashTable K V) (numOfBuckets : Nat) : HashTable K V :=
  let numOfBuckets := if numOfBuckets = 0 then
    hashTableCalculateIdealNumOfBuckets F.idealRatio table.numOfElements else numOfBuckets
  if numOfBuckets = table.numOfBuckets then table
  else if !calloc then table
  else
    { table with
      numOfBuckets := numOfBuckets
      bucketArray := putAll (fun pair => F.hash pair.key % numOfBuckets)
        (List.replicate numOfBuckets []) table.pairs }

/-- The chain of a key. -/
def HashTable.chain (table : HashTable K V) (key : Option K) : List (KeyValuePair K V) :=
  table.bucketArray.getD (F.hash key % table.numOfBuckets) []

/-- The table with another chain for a key. -/
def HashTable.setChain (table : HashTable K V) (key : Option K) (chain : List (KeyValuePair K V)) :
    HashTable K V :=
  { table with bucketArray := table.bucketArray.set (F.hash key % table.numOfBuckets) chain }

/-- `HashTable_Get`. -/
def hashTableGet (table : HashTable K V) (key : Option K) : Option (KeyValuePair K V) :=
  (table.chain F key).find? (fun pair => F.keyCompare key pair.key)

/-- `HashTable_Count`. -/
def hashTableCount (table : HashTable K V) : Nat := table.numOfElements

/-- `HashTable_GetItemValue`. -/
def hashTableGetItemValue (table : HashTable K V) (key : Option K) : Option V :=
  (hashTableGet F table key).bind (·.value)

/-- `HashTable_Contains` and `HashTable_ContainsKey`. -/
def hashTableContains (table : HashTable K V) (key : Option K) : Bool :=
  (hashTableGet F table key).isSome

/-- The first pair with an equal key is changed in place. -/
def updatePair (key : Option K) (f : KeyValuePair K V → KeyValuePair K V) :
    List (KeyValuePair K V) → List (KeyValuePair K V)
  | [] => []
  | pair :: chain =>
    if F.keyCompare key pair.key then f pair :: chain else pair :: updatePair key f chain

/-- What happens in one call: whether clones and allocations succeed, and the outcome of the
comparison with the threshold. -/
structure HashTableOutcomes where
  keyClone : Bool
  valueClone : Bool
  malloc : Bool
  threshold : Bool
  calloc : Bool
  deriving DecidableEq, Repr

/-- A key as the table stores it. -/
def storedKey (key : K) : K := match F.keyClone with
  | some clone => clone key
  | none => key

/-- A value as the table stores it. -/
def storedValue (value : V) : V := match F.valueClone with
  | some clone => clone value
  | none => value

/-- `HashTable_Add`, with the key and value that are stored. -/
def hashTableAddStored (out : HashTableOutcomes) (table : HashTable K V) (key : Option K)
    (value : Option V) : Int × HashTable K V :=
  let chain := table.chain F key
  if chain.any (fun pair => F.keyCompare key pair.key) then
    (0, table.setChain F key (updatePair F key (fun _ => ⟨key, value⟩) chain))
  else if !out.malloc then (-1, table)
  else
    let table := { table.setChain F key (⟨key, value⟩ :: chain) with
      numOfElements := table.numOfElements + 1 }
    (0, if out.threshold then hashTableRehash F out.calloc table 0 else table)

/-- `HashTable_Add`. -/
def hashTableAdd (out : HashTableOutcomes) (table : HashTable K V) (key : Option K)
    (value : Option V) : Int × HashTable K V :=
  match key, value with
  | some key, some value =>
    if F.keyClone.isSome ∧ !out.keyClone then (-1, table)
    else if F.valueClone.isSome ∧ !out.valueClone then (-1, table)
    else hashTableAddStored F out table (some (storedKey F key)) (some (storedValue F value))
  | _, _ => (-1, table)

/-- `HashTable_Remove`. -/
def hashTableRemove (out : HashTableOutcomes) (table : HashTable K V) (key : Option K) :
    Bool × HashTable K V :=
  let chain := table.chain F key
  if chain.any (fun pair => F.keyCompare key pair.key) then
    let table := { table.setChain F key (chain.eraseP (fun pair => F.keyCompare key pair.key)) with
      numOfElements := table.numOfElements - 1 }
    (true, if out.threshold then hashTableRehash F out.calloc table 0 else table)
  else (false, table)

/-- `HashTable_SetItemValue`. -/
def hashTableSetItemValue (out : HashTableOutcomes) (table : HashTable K V) (key : Option K)
    (value : Option V) : Bool × HashTable K V :=
  if F.valueClone.isSome ∧ value.isSome ∧ !out.valueClone then (false, table)
  else
    match hashTableGet F table key with
    | none => (false, table)
    | some _ =>
      (true, table.setChain F key (updatePair F key
        (fun pair => ⟨pair.key, value.map (storedValue F)⟩) (table.chain F key)))

/-- `HashTable_Clear`. -/
def hashTableClear (out : HashTableOutcomes) (table : HashTable K V) : HashTable K V :=
  hashTableRehash F out.calloc
    { table with
      numOfElements := 0
      bucketArray := List.replicate table.bucketArray.length [] } 5

/-- `HashTable_GetKeys`: the status and the keys. -/
def hashTableGetKeys (calloc : Bool) (table : HashTable K V) : Int × List (Option K) :=
  if table.numOfElements < 1 then (0, [])
  else if !calloc then (-1, [])
  else (table.numOfElements, table.pairs.map (·.key))

end Operations

/-! ### The finite map in a table -/

section Map

variable {K V : Type} {F : HashTableFunctions K V}

/-- A list of pairs with different keys has the map `m`. -/
structure HasMap (F : HashTableFunctions K V) (pairs : List (KeyValuePair K V))
    (m : Option K → Option (Option V)) : Prop where
  distinct : pairs.Pairwise (fun p q => F.keyCompare p.key q.key = false)
  value_iff : ∀ key value, m key = some value ↔
    ∃ pair ∈ pairs, F.keyCompare key pair.key = true ∧ pair.value = value

variable {pairs pairs' : List (KeyValuePair K V)} {m : Option K → Option (Option V)}

lemma keyCompare_false_symm {a b : Option K} (h : F.keyCompare a b = false) :
    F.keyCompare b a = false := by
  by_contra hba
  rw [Bool.not_eq_false] at hba
  rw [F.keyCompare_symm b a hba] at h
  cases h

/-- A comparison gives the same with an equal key. -/
lemma keyCompare_congr {a b c : Option K} (h : F.keyCompare a b = true) :
    F.keyCompare a c = F.keyCompare b c := by
  rw [Bool.eq_iff_iff]
  exact ⟨F.keyCompare_trans b a c (F.keyCompare_symm a b h), F.keyCompare_trans a b c h⟩

lemma HasMap.congr {m' : Option K → Option (Option V)} (h : HasMap F pairs m)
    (hm : ∀ key, m' key = m key) : HasMap F pairs m' :=
  (funext hm : m' = m) ▸ h

lemma HasMap.perm (h : HasMap F pairs m) (hperm : pairs.Perm pairs') : HasMap F pairs' m where
  distinct := (hperm.pairwise_iff keyCompare_false_symm).mp h.distinct
  value_iff key value := by
    rw [h.value_iff]
    simp only [hperm.mem_iff]

/-- A pair with a new key. -/
lemma HasMap.cons (h : HasMap F pairs m) {key : Option K} (value : Option V)
    (hnew : ∀ pair ∈ pairs, F.keyCompare key pair.key = false) :
    HasMap F (⟨key, value⟩ :: pairs)
      (fun k => if F.keyCompare key k then some value else m k) where
  distinct := List.pairwise_cons.mpr ⟨hnew, h.distinct⟩
  value_iff k v := by
    simp only [List.mem_cons, exists_eq_or_imp]
    split
    · rename_i hk
      constructor
      · intro hv
        exact .inl ⟨F.keyCompare_symm _ _ hk, Option.some.inj hv⟩
      · rintro (⟨-, rfl⟩ | ⟨pair, hpair, hcompare, -⟩)
        · rfl
        · have hkey := F.keyCompare_trans _ _ _ hk hcompare
          rw [hnew pair hpair] at hkey
          cases hkey
    · rename_i hk
      rw [h.value_iff]
      constructor
      · exact .inr
      · rintro (⟨hcompare, -⟩ | hpair)
        · exact absurd (F.keyCompare_symm _ _ hcompare) hk
        · exact hpair

/-- A pair that is taken away. -/
lemma HasMap.tail {pair : KeyValuePair K V} (h : HasMap F (pair :: pairs) m) {key : Option K}
    (hkey : F.keyCompare key pair.key = true) :
    HasMap F pairs (fun k => if F.keyCompare key k then none else m k) where
  distinct := (List.pairwise_cons.mp h.distinct).2
  value_iff k v := by
    have hother := (List.pairwise_cons.mp h.distinct).1
    split
    · rename_i hk
      constructor
      · intro hv
        cases hv
      · rintro ⟨q, hq, hcompare, -⟩
        have heq := F.keyCompare_trans _ _ _ (F.keyCompare_symm _ _ hkey)
          (F.keyCompare_trans _ _ _ hk hcompare)
        rw [hother q hq] at heq
        cases heq
    · rename_i hk
      rw [h.value_iff]
      simp only [List.mem_cons, exists_eq_or_imp]
      constructor
      · rintro (⟨hcompare, -⟩ | hq)
        · exact absurd (F.keyCompare_trans _ _ _ hkey (F.keyCompare_symm _ _ hcompare)) hk
        · exact hq
      · exact .inr

/-- The invariant of tables: the chains have the map `m`, each pair in the bucket of its hash. -/
structure HashTable.Holds (F : HashTableFunctions K V) (table : HashTable K V)
    (m : Option K → Option (Option V)) : Prop where
  buckets : table.bucketArray.length = table.numOfBuckets
  pos : 0 < table.numOfBuckets
  placed : InBuckets (fun pair => F.hash pair.key % table.numOfBuckets) table.bucketArray
  count : table.numOfElements = table.pairs.length
  map : HasMap F table.pairs m

variable {table : HashTable K V}

lemma HashTable.Holds.new : (hashTableNew : HashTable K V).Holds F (fun _ => none) where
  buckets := List.length_replicate
  pos := Nat.zero_lt_succ 63
  placed := inBuckets_replicate _ 64
  count := rfl
  map := ⟨List.Pairwise.nil, by simp [hashTableNew, HashTable.pairs]⟩

/-- The chain of a key has all pairs with an equal key. -/
lemma HashTable.Holds.mem_chain_iff (h : table.Holds F m) {key : Option K}
    {pair : KeyValuePair K V} (hkey : F.keyCompare key pair.key = true) :
    pair ∈ table.chain F key ↔ pair ∈ table.pairs := by
  constructor
  · exact mem_of_mem_bucket
  · intro hpair
    have hmem := h.placed.mem_bucket hpair
    rw [← F.hash_eq _ _ hkey] at hmem
    exact hmem

/-- The chain of a key and the other chains. -/
lemma HashTable.Holds.perm_chain (h : table.Holds F m) (key : Option K) :
    table.pairs.Perm (table.chain F key ++
      (table.bucketArray.eraseIdx (F.hash key % table.numOfBuckets)).flatten) := by
  refine perm_bucket ?_
  have hlt : F.hash key % table.numOfBuckets < table.bucketArray.length := by
    rw [h.buckets]
    exact Nat.mod_lt _ h.pos
  rw [HashTable.chain, List.getD_eq_getElem?_getD, List.getElem?_eq_getElem hlt]
  rfl

lemma HashTable.Holds.perm_setChain (h : table.Holds F m) (key : Option K)
    (chain : List (KeyValuePair K V)) :
    (table.setChain F key chain).pairs.Perm (chain ++
      (table.bucketArray.eraseIdx (F.hash key % table.numOfBuckets)).flatten) :=
  perm_set_bucket (by rw [h.buckets]; exact Nat.mod_lt _ h.pos) chain

/-- A chain with other pairs, whose keys have the same hash. -/
lemma HashTable.Holds.setChain (h : table.Holds F m) {key : Option K}
    {chain rest : List (KeyValuePair K V)} {m' : Option K → Option (Option V)} {n : Nat}
    (hchain : ∀ pair ∈ chain, F.hash pair.key % table.numOfBuckets =
      F.hash key % table.numOfBuckets)
    (hperm : (chain ++ (table.bucketArray.eraseIdx
      (F.hash key % table.numOfBuckets)).flatten).Perm rest)
    (hmap : HasMap F rest m') (hn : n = rest.length) :
    HashTable.Holds F { table.setChain F key chain with numOfElements := n } m' where
  buckets := List.length_set.trans h.buckets
  pos := h.pos
  placed := h.placed.set hchain
  count := hn.trans ((h.perm_setChain key chain).trans hperm).length_eq.symm
  map := hmap.perm ((h.perm_setChain key chain).trans hperm).symm

/-- `HashTable_Rehash` keeps the map. -/
lemma HashTable.Holds.rehash (h : table.Holds F m) (calloc : Bool) (numOfBuckets : Nat) :
    (hashTableRehash F calloc table numOfBuckets).Holds F m := by
  unfold hashTableRehash
  dsimp only
  obtain ⟨n, hn⟩ : ∃ n, (if numOfBuckets = 0 then
    hashTableCalculateIdealNumOfBuckets F.idealRatio table.numOfElements else numOfBuckets) = n :=
    ⟨_, rfl⟩
  have hpos : 0 < n := by
    split at hn
    · have := (hashTableCalculateIdealNumOfBuckets_spec F.idealRatio table.numOfElements).2
      omega
    · omega
  rw [hn]
  split
  · exact h
  split
  · exact h
  have hperm : (putAll (fun pair => F.hash pair.key % n) (List.replicate n [])
      table.pairs).flatten.Perm table.pairs := by
    refine (perm_putAll ?_).trans ?_
    · intro pair _
      rw [List.length_replicate]
      exact Nat.mod_lt _ hpos
    · rw [List.flatten_replicate_nil, List.append_nil]
  exact {
    buckets := (length_putAll _ _ _).trans List.length_replicate
    pos := hpos
    placed := (inBuckets_replicate _ n).putAll table.pairs
    count := h.count.trans hperm.length_eq.symm
    map := h.map.perm hperm.symm }

/-- The first pair with an equal key in a chain. -/
lemma exists_pair_of_any {chain : List (KeyValuePair K V)} {key : Option K}
    (h : chain.any (fun pair => F.keyCompare key pair.key) = true) :
    ∃ front pair back, chain = front ++ pair :: back ∧ F.keyCompare key pair.key = true ∧
      (∀ f, updatePair F key f chain = front ++ f pair :: back) ∧
      chain.eraseP (fun pair => F.keyCompare key pair.key) = front ++ back := by
  induction chain with
  | nil => cases h
  | cons pair chain ih =>
    by_cases hpair : F.keyCompare key pair.key = true
    · refine ⟨[], pair, chain, rfl, hpair, fun f => ?_, List.eraseP_cons_of_pos hpair⟩
      rw [updatePair, if_pos hpair]
      rfl
    · rw [List.any_cons, Bool.eq_false_iff.mpr hpair, Bool.false_or] at h
      obtain ⟨front, q, back, rfl, hq, hupdate, herase⟩ := ih h
      refine ⟨pair :: front, q, back, rfl, hq, fun f => ?_, ?_⟩
      · rw [updatePair, if_neg hpair, hupdate]
        rfl
      · rw [List.eraseP_cons, Bool.eq_false_iff.mpr hpair, cond_false, herase]
        rfl

lemma HashTable.Holds.hash_chain (h : table.Holds F m) {key : Option K} {pair : KeyValuePair K V}
    (hpair : pair ∈ table.chain F key) :
    F.hash pair.key % table.numOfBuckets = F.hash key % table.numOfBuckets :=
  inBuckets_bucket h.placed hpair

/-- The pair with an equal key, and all the others. -/
lemma HashTable.Holds.exists_pair (h : table.Holds F m) {key : Option K}
    (hany : (table.chain F key).any (fun pair => F.keyCompare key pair.key) = true) :
    ∃ front pair back others, table.chain F key = front ++ pair :: back ∧
      F.keyCompare key pair.key = true ∧
      (∀ f, updatePair F key f (table.chain F key) = front ++ f pair :: back) ∧
      (table.chain F key).eraseP (fun pair => F.keyCompare key pair.key) = front ++ back ∧
      (table.bucketArray.eraseIdx (F.hash key % table.numOfBuckets)).flatten = others ∧
      HasMap F (pair :: (front ++ back ++ others)) m ∧
      table.numOfElements = (front ++ back ++ others).length + 1 := by
  obtain ⟨front, pair, back, hchain, hpair, hupdate, herase⟩ := exists_pair_of_any hany
  have hperm := h.perm_chain key
  rw [hchain, List.append_assoc, List.cons_append] at hperm
  have hmiddle := hperm.trans List.perm_middle
  rw [← List.append_assoc] at hmiddle
  refine ⟨front, pair, back, _, hchain, hpair, hupdate, herase, rfl, h.map.perm hmiddle, ?_⟩
  rw [h.count, hmiddle.length_eq, List.length_cons]

/-- The pair with an equal key is changed to one with an equal key. -/
lemma HashTable.Holds.update (h : table.Holds F m) {key : Option K} {value : Option V}
    {f : KeyValuePair K V → KeyValuePair K V}
    (hf : ∀ pair, F.keyCompare key pair.key = true → F.keyCompare key (f pair).key = true ∧
      (f pair).value = value)
    (hany : (table.chain F key).any (fun pair => F.keyCompare key pair.key) = true) :
    (table.setChain F key (updatePair F key f (table.chain F key))).Holds F
      (fun k => if F.keyCompare key k then some value else m k) := by
  obtain ⟨front, pair, back, others, hchain, hpair, hupdate, -, hothers, hmap, hcount⟩ :=
    h.exists_pair hany
  obtain ⟨hkey, hvalue⟩ := hf pair hpair
  have hdistinct := List.pairwise_cons.mp hmap.distinct
  have hnew : ∀ q ∈ front ++ back ++ others, F.keyCompare (f pair).key q.key = false := by
    intro q hq
    rw [← keyCompare_congr (F.keyCompare_trans _ _ _ (F.keyCompare_symm _ _ hpair) hkey)]
    exact hdistinct.1 q hq
  have hrest := (hmap.tail hpair).cons value hnew
  rw [show (⟨(f pair).key, value⟩ : KeyValuePair K V) = f pair by rw [← hvalue]] at hrest
  have hperm : (updatePair F key f (table.chain F key) ++ (table.bucketArray.eraseIdx
      (F.hash key % table.numOfBuckets)).flatten).Perm (f pair :: (front ++ back ++ others)) := by
    rw [hupdate, hothers, List.append_assoc, List.cons_append, List.append_assoc]
    exact List.perm_middle
  refine h.setChain ?_ hperm ?_ hcount
  · intro q hq
    rw [hupdate] at hq
    rcases List.mem_append.mp hq with hfront | hcons
    · exact h.hash_chain (hchain ▸ List.mem_append_left _ hfront)
    rcases List.mem_cons.mp hcons with rfl | hback
    · rw [F.hash_eq _ _ hkey]
    · exact h.hash_chain (hchain ▸ List.mem_append_right _ (List.mem_cons_of_mem _ hback))
  · refine hrest.congr fun k => ?_
    rw [keyCompare_congr hkey]
    split
    · rfl
    · rfl

/-- A pair with a new key, at the front of its chain. -/
lemma HashTable.Holds.insert (h : table.Holds F m) {key : Option K} (value : Option V)
    (hany : (table.chain F key).any (fun pair => F.keyCompare key pair.key) = false) :
    HashTable.Holds F
      { table.setChain F key (⟨key, value⟩ :: table.chain F key) with
        numOfElements := table.numOfElements + 1 }
      (fun k => if F.keyCompare key k then some value else m k) := by
  have hnew : ∀ pair ∈ table.pairs, F.keyCompare key pair.key = false := by
    intro pair hpair
    by_contra heq
    rw [Bool.not_eq_false] at heq
    rw [List.any_eq_false] at hany
    exact hany pair ((h.mem_chain_iff heq).mpr hpair) heq
  refine h.setChain ?_ ((h.perm_chain key).symm.cons _) (h.map.cons value hnew) ?_
  · intro pair hpair
    rcases List.mem_cons.mp hpair with rfl | hmem
    · rfl
    · exact h.hash_chain hmem
  · rw [List.length_cons, h.count]

/-- The pair with an equal key is taken out of its chain. -/
lemma HashTable.Holds.erase (h : table.Holds F m) {key : Option K}
    (hany : (table.chain F key).any (fun pair => F.keyCompare key pair.key) = true) :
    HashTable.Holds F
      { table.setChain F key
          ((table.chain F key).eraseP (fun pair => F.keyCompare key pair.key)) with
        numOfElements := table.numOfElements - 1 }
      (fun k => if F.keyCompare key k then none else m k) := by
  obtain ⟨front, pair, back, others, hchain, hpair, -, herase, hothers, hmap, hcount⟩ :=
    h.exists_pair hany
  refine h.setChain ?_ ?_ (hmap.tail hpair) ?_
  · intro q hq
    exact h.hash_chain (List.mem_of_mem_eraseP hq)
  · rw [herase, hothers]
  · rw [hcount, Nat.add_sub_cancel]

lemma HashTable.Holds.any_chain (h : table.Holds F m) (key : Option K) :
    (table.chain F key).any (fun pair => F.keyCompare key pair.key) = (m key).isSome := by
  rw [Bool.eq_iff_iff, List.any_eq_true, Option.isSome_iff_exists]
  constructor
  · rintro ⟨pair, hpair, hkey⟩
    exact ⟨pair.value, (h.map.value_iff _ _).mpr
      ⟨pair, (h.mem_chain_iff hkey).mp hpair, hkey, rfl⟩⟩
  · rintro ⟨value, hvalue⟩
    obtain ⟨pair, hpair, hkey, -⟩ := (h.map.value_iff _ _).mp hvalue
    exact ⟨pair, (h.mem_chain_iff hkey).mpr hpair, hkey⟩

/-- The number of pairs with a key. -/
lemma HasMap.countP (h : HasMap F pairs m) (key : Option K) :
    pairs.countP (fun pair => F.keyCompare key pair.key) = if (m key).isSome then 1 else 0 := by
  induction pairs generalizing m with
  | nil =>
    have hnone : (m key).isSome = false := by
      rw [Option.isSome_eq_false_iff, Option.isNone_iff_eq_none]
      by_contra hsome
      obtain ⟨value, hvalue⟩ := Option.ne_none_iff_exists'.mp hsome
      obtain ⟨pair, hpair, -⟩ := (h.value_iff _ _).mp hvalue
      cases hpair
    rw [hnone]
    rfl
  | cons pair pairs ih =>
    have htail := ih (h.tail (F.keyCompare_refl pair.key))
    rw [List.countP_cons, htail]
    by_cases hkey : F.keyCompare key pair.key = true
    · have hsome := (h.value_iff key pair.value).mpr ⟨pair, List.mem_cons_self, hkey, rfl⟩
      rw [if_pos hkey, if_pos (F.keyCompare_symm _ _ hkey), hsome]
      rfl
    · rw [if_neg hkey, if_neg fun heq => hkey (F.keyCompare_symm _ _ heq), Nat.add_zero]

/-- A search in the chain of a key finds what the map has. -/
lemma HashTable.Holds.get (h : table.Holds F m) (key : Option K) :
    (hashTableGet F table key).map (·.value) = m key := by
  rw [hashTableGet]
  cases hfind : (table.chain F key).find? (fun pair => F.keyCompare key pair.key) with
  | none =>
    have hany : (m key).isSome = false := by
      rw [← h.any_chain, List.any_eq_false]
      exact List.find?_eq_none.mp hfind
    rw [Option.isSome_eq_false_iff, Option.isNone_iff_eq_none] at hany
    exact hany.symm
  | some pair =>
    have hkey := List.find?_some hfind
    exact ((h.map.value_iff key pair.value).mpr
      ⟨pair, (h.mem_chain_iff hkey).mp (List.mem_of_find?_eq_some hfind), hkey, rfl⟩).symm

end Map

/-! ### Runs -/

section Runs

variable {K V : Type} (F : HashTableFunctions K V)

/-- A call that may change a table. -/
inductive HashOp (K V : Type) where
  | add (out : HashTableOutcomes) (key : Option K) (value : Option V)
  | remove (out : HashTableOutcomes) (key : Option K)
  | setItemValue (out : HashTableOutcomes) (key : Option K) (value : Option V)
  | clear (out : HashTableOutcomes)

/-- Whether a call succeeds, and the table after it. -/
def hashStep (table : HashTable K V) : HashOp K V → Bool × HashTable K V
  | .add out key value =>
    let (status, table) := hashTableAdd F out table key value
    (status = 0, table)
  | .remove out key => hashTableRemove F out table key
  | .setItemValue out key value => hashTableSetItemValue F out table key value
  | .clear out => (true, hashTableClear F out table)

/-- A map with another entry for all keys equal to `key`. -/
def mapPut (m : Option K → Option (Option V)) (key : Option K) (entry : Option (Option V)) :
    Option K → Option (Option V) :=
  fun k => if F.keyCompare key k then entry else m k

/-- The same calls on a map from keys to values. A call fails when it has no key or value to add,
when a clone or an allocation that it needs fails, and when there is no entry to remove or set. -/
def mapStep (m : Option K → Option (Option V)) :
    HashOp K V → Bool × (Option K → Option (Option V))
  | .add out (some key) (some value) =>
    if (F.keyClone.isSome → out.keyClone) ∧ (F.valueClone.isSome → out.valueClone) ∧
        ((m (some key)).isSome ∨ out.malloc) then
      (true, mapPut F m (some key) (some (some (storedValue F value))))
    else (false, m)
  | .add _ _ _ => (false, m)
  | .remove _ key => ((m key).isSome, mapPut F m key none)
  | .setItemValue out key value =>
    if (F.valueClone.isSome → value.isSome → out.valueClone) ∧ (m key).isSome then
      (true, mapPut F m key (some (value.map (storedValue F))))
    else (false, m)
  | .clear _ => (true, fun _ => none)

/-- A table is what a map is. -/
structure HashTable.Refines (table : HashTable K V) (m : Option K → Option (Option V)) : Prop where
  getItemValue : ∀ key, hashTableGetItemValue F table key = (m key).join
  contains : ∀ key, hashTableContains F table key = (m key).isSome
  /-- There is one pair for each key of the map, and none for other keys. -/
  pairs : ∀ key, table.pairs.countP (fun pair => F.keyCompare key pair.key) =
    if (m key).isSome then 1 else 0
  /-- Each pair is in the bucket that its hash selects. -/
  buckets : table.bucketArray.length = table.numOfBuckets
  bucket : ∀ i chain, table.bucketArray[i]? = some chain → ∀ pair ∈ chain,
    F.hash pair.key % table.numOfBuckets = i
  count : hashTableCount table = table.pairs.length
  getKeys : (hashTableGetKeys true table).1 = table.pairs.length
  keys : ∀ key, (hashTableGetKeys true table).2.countP (F.keyCompare key) =
    if (m key).isSome then 1 else 0

variable {F} {m : Option K → Option (Option V)} {table : HashTable K V}

lemma HashTable.Holds.refines (h : table.Holds F m) : table.Refines F m where
  getItemValue key := by
    rw [← h.get key, hashTableGetItemValue]
    cases hashTableGet F table key with
    | none => rfl
    | some pair => rfl
  contains key := by rw [← h.get key, Option.isSome_map]; rfl
  pairs := h.map.countP
  buckets := h.buckets
  bucket i chain hchain pair hpair := h.placed i chain hchain pair hpair
  count := h.count
  getKeys := by
    rw [hashTableGetKeys, ← h.count]
    split
    · rename_i hlt
      rw [Nat.lt_one_iff.mp hlt]
      rfl
    · rfl
  keys key := by
    rw [← h.map.countP, hashTableGetKeys]
    split
    · rename_i hlt
      rw [h.count, Nat.lt_one_iff, List.length_eq_zero_iff] at hlt
      rw [hlt]
      rfl
    · exact List.countP_map

/-- A stored key is equal to the key. -/
lemma keyCompare_storedKey (key : K) : F.keyCompare (some key) (some (storedKey F key)) = true := by
  rw [storedKey]
  split
  · rename_i clone hclone
    exact F.keyClone_eq clone hclone key
  · exact F.keyCompare_refl (some key)

lemma mapPut_congr {a b : Option K} (h : F.keyCompare a b = true) (entry : Option (Option V)) :
    mapPut F m b entry = mapPut F m a entry := by
  funext k
  rw [mapPut, mapPut, keyCompare_congr h]

/-- Equal keys have the same entry. -/
lemma HasMap.apply_congr {pairs : List (KeyValuePair K V)} (h : HasMap F pairs m) {a b : Option K}
    (hab : F.keyCompare a b = true) : m a = m b := by
  refine Option.ext fun value => ?_
  rw [h.value_iff, h.value_iff]
  simp only [keyCompare_congr hab]

lemma HashTable.Holds.rehash_if (h : table.Holds F m) (threshold calloc : Bool) :
    (if threshold then hashTableRehash F calloc table 0 else table).Holds F m := by
  split
  · exact h.rehash calloc 0
  · exact h

/-- `HashTable_Add` of the stored key and value. -/
lemma HashTable.Holds.addStored (h : table.Holds F m) (out : HashTableOutcomes) (key : Option K)
    (value : Option V) :
    if (m key).isSome ∨ out.malloc then
      (hashTableAddStored F out table key value).1 = 0 ∧
        (hashTableAddStored F out table key value).2.Holds F (mapPut F m key (some value))
    else hashTableAddStored F out table key value = (-1, table) := by
  rw [hashTableAddStored]
  dsimp only
  rw [h.any_chain]
  cases hsome : (m key).isSome with
  | true =>
    rw [if_pos (.inl rfl), if_pos rfl]
    refine ⟨rfl, h.update (fun _ _ => ⟨F.keyCompare_refl key, rfl⟩) ?_⟩
    rw [h.any_chain, hsome]
  | false =>
    rw [if_neg (Bool.false_ne_true)]
    cases hmalloc : out.malloc with
    | false =>
      rw [if_neg (by decide)]
      rfl
    | true =>
      rw [if_pos (.inr rfl)]
      refine ⟨rfl, (h.insert value ?_).rehash_if out.threshold out.calloc⟩
      rw [h.any_chain, hsome]

/-- `HashTable_Add` is an entry of the map. -/
lemma HashTable.Holds.add (h : table.Holds F m) (out : HashTableOutcomes) (key : Option K)
    (value : Option V) :
    (hashStep F table (.add out key value)).1 = (mapStep F m (.add out key value)).1 ∧
      (hashStep F table (.add out key value)).2.Holds F (mapStep F m (.add out key value)).2 := by
  cases key with
  | none => exact ⟨rfl, h⟩
  | some key =>
    cases value with
    | none => exact ⟨rfl, h⟩
    | some value =>
      rw [hashStep, mapStep]
      dsimp only
      by_cases hkey : F.keyClone.isSome → out.keyClone
      · by_cases hvalue : F.valueClone.isSome → out.valueClone
        · have hadd : hashTableAdd F out table (some key) (some value) =
              hashTableAddStored F out table (some (storedKey F key))
                (some (storedValue F value)) := by
            rw [hashTableAdd, if_neg, if_neg]
            · simpa using hvalue
            · simpa using hkey
          have hstored := h.addStored out (some (storedKey F key)) (some (storedValue F value))
          have heq := keyCompare_storedKey (F := F) key
          rw [hadd, ← mapPut_congr heq, h.map.apply_congr heq]
          split at hstored
          · rename_i hput
            rw [if_pos ⟨hkey, hvalue, hput⟩]
            exact ⟨decide_eq_true hstored.1, hstored.2⟩
          · rename_i hput
            rw [if_neg fun hand => hput hand.2.2, hstored]
            exact ⟨rfl, h⟩
        · have hadd : hashTableAdd F out table (some key) (some value) = (-1, table) := by
            rw [hashTableAdd, if_neg, if_pos]
            · simpa using hvalue
            · simpa using hkey
          rw [hadd, if_neg fun hand => hvalue hand.2.1]
          exact ⟨rfl, h⟩
      · have hadd : hashTableAdd F out table (some key) (some value) = (-1, table) := by
          rw [hashTableAdd, if_pos]
          simpa using hkey
        rw [hadd, if_neg fun hand => hkey hand.1]
        exact ⟨rfl, h⟩

/-- `HashTable_Remove` takes an entry out of the map. -/
lemma HashTable.Holds.remove (h : table.Holds F m) (out : HashTableOutcomes) (key : Option K) :
    (hashTableRemove F out table key).1 = (m key).isSome ∧
      (hashTableRemove F out table key).2.Holds F (mapPut F m key none) := by
  rw [hashTableRemove]
  dsimp only
  rw [h.any_chain]
  cases hsome : (m key).isSome with
  | true =>
    refine ⟨rfl, (h.erase ?_).rehash_if out.threshold out.calloc⟩
    rw [h.any_chain, hsome]
  | false =>
    have hput : mapPut F m key none = m := by
      funext k
      rw [mapPut]
      split
      · rename_i heq
        rw [← h.map.apply_congr heq]
        exact (Option.not_isSome_iff_eq_none.mp (Bool.eq_false_iff.mp hsome)).symm
      · rfl
    rw [hput]
    exact ⟨rfl, h⟩

/-- `HashTable_SetItemValue` changes an entry of the map. -/
lemma HashTable.Holds.setItemValue (h : table.Holds F m) (out : HashTableOutcomes) (key : Option K)
    (value : Option V) :
    (hashTableSetItemValue F out table key value).1 =
        (mapStep F m (.setItemValue out key value)).1 ∧
      (hashTableSetItemValue F out table key value).2.Holds F
        (mapStep F m (.setItemValue out key value)).2 := by
  rw [hashTableSetItemValue, mapStep]
  by_cases hclone : F.valueClone.isSome → value.isSome → out.valueClone
  · rw [if_neg (by simpa using hclone)]
    have hget := h.get key
    split
    · rename_i hnone
      rw [hnone] at hget
      rw [if_neg (by rw [← hget]; simp)]
      exact ⟨rfl, h⟩
    · rename_i pair hsome
      rw [hsome] at hget
      have hany : (m key).isSome = true := by rw [← hget]; rfl
      rw [if_pos ⟨hclone, hany⟩]
      exact ⟨rfl, h.update (fun _ hpair => ⟨hpair, rfl⟩) ((h.any_chain key).trans hany)⟩
  · rw [if_pos (by simpa using hclone), if_neg fun hand => hclone hand.1]
    exact ⟨rfl, h⟩

/-- `HashTable_Clear` leaves no entry. -/
lemma HashTable.Holds.clear (h : table.Holds F m) (out : HashTableOutcomes) :
    (hashTableClear F out table).Holds F (fun _ => none) := by
  refine HashTable.Holds.rehash ?_ out.calloc 5
  have hempty : (List.replicate table.bucketArray.length
      ([] : List (KeyValuePair K V))).flatten = [] := List.flatten_replicate_nil
  exact {
    buckets := List.length_replicate.trans h.buckets
    pos := h.pos
    placed := inBuckets_replicate _ _
    count := by rw [HashTable.pairs, hempty]; rfl
    map := by
      rw [HashTable.pairs, hempty]
      exact ⟨List.Pairwise.nil, by simp⟩ }

/-- One call: the table does what the map does. -/
lemma HashTable.Holds.step (h : table.Holds F m) (op : HashOp K V) :
    (hashStep F table op).1 = (mapStep F m op).1 ∧
      (hashStep F table op).2.Holds F (mapStep F m op).2 := by
  cases op with
  | add out key value => exact h.add out key value
  | remove out key => exact h.remove out key
  | setItemValue out key value => exact h.setItemValue out key value
  | clear out => exact ⟨rfl, h.clear out⟩

variable (F)

/-- A call on a table and on a map. -/
def tableAndMapStep (s : HashTable K V × (Option K → Option (Option V))) (op : HashOp K V) :
    HashTable K V × (Option K → Option (Option V)) :=
  ((hashStep F s.1 op).2, (mapStep F s.2 op).2)

end Runs

/-- Two addresses with the same hash are two keys of a table as `HashTable_New` makes it. -/
example :
    let add := fun table pointer value => (hashTableAdd (hashTablePointerFunctions Nat)
      ⟨true, true, true, false, true⟩ table (some pointer) (some value)).2
    (hashTableGetItemValue (hashTablePointerFunctions Nat) (add (add hashTableNew 0x18 1) 0x10 2)
      (some 0x18)) = some 1 := by
  decide

/-- The callbacks of a table of strings with strings as keys. -/
def stringFunctions : HashTableFunctions (List UInt8) (List UInt8) :=
  hashTableStringFunctions (some hashTableStringClone)

/-- The key `ab` is added twice, then `c`, with which the table is rehashed from 64 buckets to 5;
`ab` gets another value there, and `c` is removed. -/
def stringTableCalls : List (HashOp (List UInt8) (List UInt8)) :=
  [.add ⟨true, true, true, false, true⟩ (some [0x61, 0x62]) (some [0x31]),
    .add ⟨true, true, true, false, true⟩ (some [0x61, 0x62]) (some [0x32]),
    .add ⟨true, true, true, true, true⟩ (some [0x63]) (some [0x33]),
    .setItemValue ⟨true, true, true, false, true⟩ (some [0x61, 0x62]) (some [0x34]),
    .remove ⟨true, true, true, false, true⟩ (some [0x63])]

end FreeRdp
