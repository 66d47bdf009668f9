import FreeRdp.Library.Loops
import FreeRdp.Winpr.Strings
import FreeRdp.Winpr.Strtol

/-!
# Addresses of remote assistance

The list of addresses that `freerdp_assistance_parse_address_list` of `assistance.c` reads. A pointer
into the list is what the list has from there on: the zeros that the parser writes into it are all in
front of the pointer it goes on with. Allocations succeed.
-/

namespace FreeRdp

/-- The addresses of an `rdpAssistanceFile`. -/
structure RdpAssistanceFile where
  machineCount : Nat
  machineAddresses : List (List UInt8)
  machinePorts : List Nat
  deriving DecidableEq, Repr

/-- `freerdp_assistance_file_new`. -/
def freerdpAssistanceFileNew : RdpAssistanceFile := ⟨0, [], []⟩

/-- `reallocate`. -/
def reallocate (file : RdpAssistanceFile) (host : List UInt8) (port : Nat) : RdpAssistanceFile :=
  ⟨file.machineCount + 1, file.machineAddresses ++ [host], file.machinePorts ++ [port]⟩

/-- `append_address`. -/
def appendAddress (file : RdpAssistanceFile) (host port : List UInt8) : Option RdpAssistanceFile :=
  match strtoul0 port with
  | none => none
  | some p => if p = 0 ∨ 65535 < p then none else some (reallocate file host p)

/-- A round of the loop of `freerdp_assistance_parse_address_list`, with the pointer `p`. -/
def parseAddressRound (s : RdpAssistanceFile × List UInt8) :
    Round (RdpAssistanceFile × List UInt8) (Bool × RdpAssistanceFile) :=
  let (file, p) := s
  match strchr p SEMICOLON with
  | none => .done (true, file)
  | some i =>
    let p := p.drop i
    match strchr p COLON with
    | none => .done (false, file)
    | some i =>
      let q := p.drop (i + 1)
      match appendAddress file (p.take i) q with
      | none => .done (false, file)
      | some file => .next (file, q)

/-- `freerdp_assistance_parse_address_list`. Every round but the last moves the pointer. -/
def freerdpAssistanceParseAddressList (file : RdpAssistanceFile) (list : List UInt8) :
    Option (Bool × RdpAssistanceFile) :=
  loop parseAddressRound (list.length + 1) (file, list)

/-! ### Lists of addresses -/

/-- A host with its port. -/
structure AssistanceAddress where
  host : List UInt8
  port : Nat

/-- A host that a list can have, and a port that is one. -/
structure AssistanceAddress.Valid (address : AssistanceAddress) : Prop where
  host_chars : ∀ c ∈ address.host, c ≠ 0 ∧ c ≠ SEMICOLON ∧ c ≠ COLON
  port_pos : 1 ≤ address.port
  port_le : address.port ≤ 65535

/-- A number in decimal digits. -/
def decimalText (n : Nat) : List UInt8 := (Nat.digits 10 n).reverse.map fun d => UInt8.ofNat (48 + d)

/-- `host:port`. -/
def AssistanceAddress.text (address : AssistanceAddress) : List UInt8 :=
  address.host ++ COLON :: decimalText address.port

/-- `host1:port1;host2:port2;...`. -/
def addressListText (addresses : List AssistanceAddress) : List UInt8 :=
  [SEMICOLON].intercalate (addresses.map AssistanceAddress.text)

/-- The list is accepted, and the file has its addresses in their order. -/
def ReadsAddresses (addresses : List AssistanceAddress) : Prop :=
  freerdpAssistanceParseAddressList freerdpAssistanceFileNew (addressListText addresses) =
    some (true, ⟨addresses.length, addresses.map (·.host), addresses.map (·.port)⟩)

instance (addresses : List AssistanceAddress) : Decidable (ReadsAddresses addresses) :=
  inferInstanceAs (Decidable (_ = _))

variable {addresses : List AssistanceAddress} {file : RdpAssistanceFile} {p : List UInt8}

/-! ### The number of addresses -/

lemma count_drop_le (c : UInt8) (l : List UInt8) (n : Nat) : (l.drop n).count c ≤ l.count c :=
  (List.drop_sublist n l).count_le c

/-- A semicolon that has been found is behind the pointer from then on. -/
lemma count_drop_of_strchr {c : UInt8} {i : Nat} (h : strchr p c = some i) :
    (p.drop (i + 1)).count c + 1 = (p.drop i).count c := by
  obtain ⟨hi, hc, -⟩ := List.findIdx?_eq_some_iff_getElem.mp h
  rw [List.drop_eq_getElem_cons hi, of_decide_eq_true hc, List.count_cons_self]

/-- A round takes a semicolon for each address. -/
lemma parseAddressRound_count (n : Nat) (s : RdpAssistanceFile × List UInt8)
    (hs : s.1.machineCount + s.2.count SEMICOLON ≤ n) :
    (parseAddressRound s).Ends
      (fun s' => s'.1.machineCount + s'.2.count SEMICOLON ≤ n ∧ s'.2.length < s.2.length)
      (fun r => r.2.machineCount ≤ n) := by
  obtain ⟨file, p⟩ := s
  have hfile : file.machineCount ≤ n := (Nat.le_add_right _ _).trans hs
  unfold parseAddressRound
  dsimp only
  rcases hp : strchr p SEMICOLON with _ | i
  · exact hfile
  dsimp only
  rcases hq : strchr (p.drop i) COLON with _ | j
  · exact hfile
  dsimp only
  rcases happend : appendAddress file ((p.drop i).take j) ((p.drop i).drop (j + 1)) with _ | file'
  · exact hfile
  have hcount : file'.machineCount = file.machineCount + 1 := by
    unfold appendAddress at happend
    split at happend
    · cases happend
    · split at happend
      · cases happend
      · cases happend
        rfl
  have hlt : i < p.length := (List.findIdx?_eq_some_iff_getElem.mp hp).1
  have hdrop : (p.drop i).drop (j + 1) = (p.drop (i + 1)).drop j := by
    rw [List.drop_drop, List.drop_drop, Nat.add_right_comm, ← Nat.add_assoc]
  have hle := count_drop_le SEMICOLON (p.drop (i + 1)) j
  have hsemicolon := count_drop_of_strchr hp
  have hwhole := count_drop_le SEMICOLON p i
  refine ⟨?_, ?_⟩
  · simp only [hdrop, hcount] at hs ⊢
    omega
  · simp only [List.length_drop]
    omega

/-- Not more addresses are read than the list has semicolons. -/
lemma machineCount_le_count {r : Bool × RdpAssistanceFile}
    (h : freerdpAssistanceParseAddressList freerdpAssistanceFileNew p = some r) :
    r.2.machineCount ≤ p.count SEMICOLON := by
  obtain ⟨r', hr', hle⟩ := loop_spec (fun s => s.2.length)
    (fun s hs _ => parseAddressRound_count (p.count SEMICOLON) s hs)
    (s := (freerdpAssistanceFileNew, p)) (Nat.zero_add _).le (alongLoop_true _ _)
    (Nat.lt_succ_self p.length)
  rw [freerdpAssistanceParseAddressList, hr', Option.some.injEq] at h
  exact h ▸ hle

lemma count_decimalText (n : Nat) : (decimalText n).count SEMICOLON = 0 := by
  rw [List.count_eq_zero, decimalText]
  intro hmem
  obtain ⟨d, hd, heq⟩ := List.mem_map.mp hmem
  have hlt : d < 10 := Nat.digits_lt_base (by decide) (List.mem_reverse.mp hd)
  interval_cases d <;> exact absurd heq (by decide)

lemma AssistanceAddress.Valid.count_text {address : AssistanceAddress} (h : address.Valid) :
    address.text.count SEMICOLON = 0 := by
  have hhost : address.host.count SEMICOLON = 0 :=
    List.count_eq_zero.mpr fun hmem => (h.host_chars _ hmem).2.1 rfl
  rw [text, List.count_append, hhost, List.count_cons, count_decimalText]
  rfl

/-- There is a semicolon between two addresses. -/
lemma count_addressListText (hne : addresses ≠ []) (hvalid : ∀ a ∈ addresses, a.Valid) :
    (addressListText addresses).count SEMICOLON + 1 = addresses.length := by
  induction addresses with
  | nil => exact absurd rfl hne
  | cons address addresses ih =>
    obtain ⟨haddress, hrest⟩ := List.forall_mem_cons.mp hvalid
    cases addresses with
    | nil =>
      rw [addressListText]
      simpa using haddress.count_text
    | cons next addresses =>
      have htail := ih (List.cons_ne_nil _ _) hrest
      rw [addressListText] at htail ⊢
      simp only [List.map_cons, List.intercalate_cons_cons, List.count_append, List.length_cons,
        List.count_singleton_self, haddress.count_text] at htail ⊢
      omega

/-- No list of addresses is read as it is: the parser looks for a semicolon before it reads the first
address, and so there is one address less in the file than in the list. -/
theorem not_readsAddresses (addresses : List AssistanceAddress) (hne : addresses ≠ [])
    (hvalid : ∀ a ∈ addresses, a.Valid) : ¬ReadsAddresses addresses := by
  intro h
  have hle := machineCount_le_count h
  have hcount := count_addressListText hne hvalid
  dsimp only at hle
  omega

theorem not_readsAddresses_two : ¬ReadsAddresses [⟨[0x61], 1⟩, ⟨[0x62], 65535⟩] :=
  not_readsAddresses _ (List.cons_ne_nil _ _) (List.forall_mem_cons.mpr
    ⟨⟨List.forall_mem_singleton.mpr (by decide), le_rfl, by decide⟩, List.forall_mem_singleton.mpr
      ⟨List.forall_mem_singleton.mpr (by decide), by decide, le_rfl⟩⟩)

/-- `h:1` is accepted, and no address is read. -/
theorem parseAddressList_one_lost :
    freerdpAssistanceParseAddressList freerdpAssistanceFileNew (addressListText [⟨[0x68], 1⟩]) =
        some (true, freerdpAssistanceFileNew) ∧
      ¬ReadsAddresses [⟨[0x68], 1⟩] := by
  have htext : addressListText [⟨[0x68], 1⟩] = [0x68, 0x3A, 0x31] := by
    rw [addressListText, List.map_singleton, List.intercalate_singleton, AssistanceAddress.text,
      decimalText, Nat.digits_of_lt 10 1 (by decide) (by decide)]
    rfl
  have hparse : freerdpAssistanceParseAddressList freerdpAssistanceFileNew
      (addressListText [⟨[0x68], 1⟩]) = some (true, freerdpAssistanceFileNew) := by
    rw [htext]
    decide
  refine ⟨hparse, fun h => ?_⟩
  rw [ReadsAddresses, hparse] at h
  exact absurd h (by decide)

end FreeRdp
