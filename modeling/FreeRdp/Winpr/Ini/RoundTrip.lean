import FreeRdp.Winpr.Ini.Lines

/-!
# Writing ini files and reading them back

A file that is filled key by key has sections and keys without duplicates, so the reader appends each
of them in its place. The writer puts all of the text into the buffer of the size that it computes.
-/

namespace FreeRdp

variable {ini : WIniFile} {name : List UInt8} {m : Nat → UInt8}

/-! ### Files that are filled key by key -/

/-- The arguments of a call of `IniFile_SetKeyValueString`. -/
structure IniCall where
  sectionName : List UInt8
  key : List UInt8
  value : List UInt8

/-- A call with strings that can be written. -/
def IniCall.Plain (call : IniCall) : Prop :=
  PlainSection call.sectionName ∧ PlainKey call.key call.value

/-- The file after some calls. -/
def iniFileOf (calls : List IniCall) : WIniFile :=
  calls.foldl (fun ini call => iniFileSetKeyValueString ini call.sectionName call.key call.value)
    iniFileNew

/-- No name is the same as an earlier one. -/
def DistinctNames (names : List (List UInt8)) : Prop :=
  names.Pairwise fun s t => stricmpEqual t s = false

/-- A section with a plain name and plain keys. -/
structure WIniFileSection.Good (s : WIniFileSection) : Prop where
  plain : PlainSection s.name
  keys : ∀ key ∈ s.keys.items, PlainKey key.name key.value
  distinct : DistinctNames (s.keys.items.map (·.name))

/-- A file of such sections. -/
structure WIniFile.Good (ini : WIniFile) : Prop where
  sections : ∀ s ∈ ini.sections.items, s.Good
  distinct : DistinctNames (ini.sections.items.map (·.name))

/-- What a file holds. -/
def WIniFile.contents (ini : WIniFile) : List (List UInt8 × List WIniFileKey) :=
  ini.sections.items.map fun s => (s.name, s.keys.items)

lemma DistinctNames.append {names : List (List UInt8)} (h : DistinctNames names)
    (hname : ∀ s ∈ names, stricmpEqual name s = false) : DistinctNames (names ++ [name]) := by
  refine List.pairwise_append.mpr ⟨h, List.pairwise_singleton _ _, fun s hs t ht => ?_⟩
  rw [List.mem_singleton.mp ht]
  exact hname s hs

lemma name_iniFileAddKey (key value : List UInt8) (s : WIniFileSection) :
    (iniFileAddKey key value s).name = s.name := by
  unfold iniFileAddKey
  split <;> rfl

lemma WIniFileSection.Good.addKey {s : WIniFileSection} {key value : List UInt8} (h : s.Good)
    (hkey : PlainKey key value) : (iniFileAddKey key value s).Good := by
  unfold iniFileAddKey
  cases hfound : iniFileGetKey s key with
  | none =>
    refine ⟨h.plain, fun k hk => ?_, ?_⟩
    · rcases List.mem_append.mp hk with hk | hk
      · exact h.keys k hk
      · rw [List.mem_singleton.mp hk]
        exact hkey
    · show DistinctNames ((s.keys.items ++ [_]).map _)
      rw [List.map_append]
      refine h.distinct.append fun other hother => ?_
      obtain ⟨k, hk, rfl⟩ := List.mem_map.mp hother
      exact List.findIdx?_eq_none_iff.mp hfound k hk
  | some i =>
    refine ⟨h.plain, fun k hk => ?_, ?_⟩
    · obtain ⟨old, hold, rfl | rfl⟩ := mem_modify hk
      · exact h.keys _ hold
      · have hname := h.keys old hold
        exact ⟨hname.name_chars, hname.name_first, hname.name_last, hkey.value_chars,
          hkey.value_first, hkey.value_last⟩
    · have hnames : (s.keys.items.modify i fun k => { k with value := value }).map (·.name) =
          s.keys.items.map (·.name) := map_modify_of_eq fun _ => rfl
      show DistinctNames ((s.keys.items.modify i fun k => { k with value := value }).map _)
      rw [hnames]
      exact h.distinct

lemma good_iniFileNew : iniFileNew.Good := ⟨nofun, List.Pairwise.nil⟩

lemma good_iniFileSectionNew (h : PlainSection name) : (iniFileSectionNew name).Good :=
  ⟨h, nofun, List.Pairwise.nil⟩

lemma WIniFile.Good.addSection (h : ini.Good) (hname : PlainSection name) :
    (iniFileAddSection ini name).1.Good := by
  unfold iniFileAddSection
  cases hfound : iniFileGetSection ini name with
  | some i => exact h
  | none =>
    refine ⟨fun s hs => ?_, ?_⟩
    · rcases List.mem_append.mp hs with hs | hs
      · exact h.sections s hs
      · rw [List.mem_singleton.mp hs]
        exact good_iniFileSectionNew hname
    · show DistinctNames ((ini.sections.items ++ [_]).map _)
      rw [List.map_append]
      refine h.distinct.append fun other hother => ?_
      obtain ⟨s, hs, rfl⟩ := List.mem_map.mp hother
      exact List.findIdx?_eq_none_iff.mp hfound s hs

lemma WIniFile.Good.modify (h : ini.Good) (i : Nat) {f : WIniFileSection → WIniFileSection}
    (hf : ∀ s : WIniFileSection, s.Good → (f s).Good) (hname : ∀ s, (f s).name = s.name) :
    (ini.modify i f).Good := by
  refine ⟨fun s hs => ?_, ?_⟩
  · obtain ⟨old, hold, rfl | rfl⟩ := mem_modify hs
    · exact h.sections _ hold
    · exact hf _ (h.sections _ hold)
  · show DistinctNames ((ini.sections.items.modify i f).map WIniFileSection.name)
    rw [map_modify_of_eq hname]
    exact h.distinct

/-- A call keeps the names apart. -/
lemma WIniFile.Good.setKeyValueString (h : ini.Good) {call : IniCall} (hcall : call.Plain) :
    (iniFileSetKeyValueString ini call.sectionName call.key call.value).Good := by
  have hkey : ∀ s : WIniFileSection, s.Good → (iniFileAddKey call.key call.value s).Good :=
    fun s hs => hs.addKey hcall.2
  unfold iniFileSetKeyValueString
  cases iniFileGetSection ini call.sectionName with
  | some i => exact h.modify i hkey (name_iniFileAddKey _ _)
  | none => exact (h.addSection hcall.1).modify _ hkey (name_iniFileAddKey _ _)

lemma good_iniFileOf {calls : List IniCall} (h : ∀ call ∈ calls, call.Plain) :
    (iniFileOf calls).Good := by
  have hrun : ∀ ini : WIniFile, ini.Good → (calls.foldl (fun ini call =>
      iniFileSetKeyValueString ini call.sectionName call.key call.value) ini).Good := by
    induction calls with
    | nil => exact fun _ hini => hini
    | cons call calls ih =>
      rw [List.forall_mem_cons] at h
      exact fun ini hini => ih h.2 _ (hini.setKeyValueString h.1)
  exact hrun _ good_iniFileNew

lemma sections_iniFileSetKeyValueString_ne_nil (key value : List UInt8) :
    (iniFileSetKeyValueString ini name key value).sections.items ≠ [] := by
  unfold iniFileSetKeyValueString
  cases hfound : iniFileGetSection ini name with
  | some i =>
    obtain ⟨hi, -⟩ := List.findIdx?_eq_some_iff_getElem.mp hfound
    refine List.ne_nil_of_length_pos ?_
    show 0 < (ini.sections.items.modify i _).length
    rw [List.length_modify]
    omega
  | none =>
    refine List.ne_nil_of_length_pos ?_
    rw [iniFileAddSection, hfound]
    show 0 < ((ini.sections.items ++ [_]).modify _ _).length
    rw [List.length_modify, List.length_append]
    exact Nat.succ_pos _

/-- After a call there is a section. -/
lemma sections_iniFileOf_ne_nil {calls : List IniCall} (h : calls ≠ []) :
    (iniFileOf calls).sections.items ≠ [] := by
  obtain ⟨calls, call, rfl⟩ := (List.eq_nil_or_concat calls).resolve_left h
  rw [iniFileOf, List.concat_eq_append, List.foldl_append]
  exact sections_iniFileSetKeyValueString_ne_nil _ _

/-! ### The text -/

/-- The text of a key. -/
def keyText (key : WIniFileKey) : List UInt8 := key.name ++ EQUALS :: key.value ++ [LF]

/-- The text of a section. -/
def sectionText (s : WIniFileSection) : List UInt8 :=
  (LBRACKET :: s.name ++ [RBRACKET, LF]) ++ s.keys.items.flatMap keyText ++ [LF]

/-- The text of a file. -/
def iniText (ini : WIniFile) : List UInt8 := ini.sections.items.flatMap sectionText

lemma length_keyText (key : WIniFileKey) :
    (keyText key).length = key.name.length + key.value.length + 2 := by
  simp only [keyText, List.length_append, List.length_cons, List.length_nil]
  omega

/-- The size that is computed is that of the text and of its end. -/
lemma iniFileSize_eq (ini : WIniFile) : iniFileSize ini = (iniText ini).length + 1 := by
  have hsection : ∀ s : WIniFileSection, (sectionText s).length = s.name.length + 3 +
      (s.keys.items.map fun key => key.name.length + key.value.length + 2).sum + 1 := fun s => by
    simp only [sectionText, List.length_append, List.length_cons, List.length_nil,
      List.length_flatMap, length_keyText]
  rw [iniFileSize, iniText, List.length_flatMap]
  simp only [hsection]

/-- The writer has written some text so far, inside of the size, and goes on behind it. -/
structure IniWriter.Wrote (size : Nat) (text : List UInt8) (w : IniWriter) : Prop where
  offset : w.offset = text.length
  buffer : readList w.buffer 0 text.length = text
  top : w.top ≤ size

/-- Text for which there is room is written whole. -/
lemma IniWriter.Wrote.sprintfS {size length : Nat} {text more : List UInt8} {w : IniWriter}
    (h : w.Wrote size text) (hroom : text.length + more.length < size)
    (hlength : length = more.length) : (w.sprintfS size more length).Wrote size (text ++ more) := by
  have hoffset := h.offset
  have htop := h.top
  have hwritten : (if size - w.offset = 0 then [] else more.take (size - w.offset - 1) ++ [0]) =
      more ++ [0] := by
    rw [if_neg (by omega), List.take_of_length_le (by omega)]
  have hw : w.sprintfS size more length = ⟨writeList w.buffer w.offset (more ++ [0]),
      w.offset + length, max w.top (w.offset + (more ++ [0]).length)⟩ := by
    rw [IniWriter.sprintfS, hwritten]
  rw [hw]
  constructor
  · show w.offset + length = _
    rw [List.length_append, hlength, hoffset]
  · dsimp only
    rw [List.length_append, readList_add, hoffset, Nat.zero_add]
    congr 1
    · rw [readList_writeList_of_disjoint (by omega), h.buffer]
    · rw [writeList_append, readList_writeList_of_disjoint (by omega), readList_writeList]
  · show max w.top (w.offset + (more ++ [0]).length) ≤ size
    rw [List.length_append, List.length_singleton]
    omega

lemma IniWriter.Wrote.putKeys {size : Nat} {keys : List WIniFileKey} {text : List UInt8}
    {w : IniWriter} (h : w.Wrote size text)
    (hroom : text.length + (keys.flatMap keyText).length < size) :
    (keys.foldl (IniWriter.putKey size) w).Wrote size (text ++ keys.flatMap keyText) := by
  induction keys generalizing text w with
  | nil =>
    rw [List.flatMap_nil, List.append_nil]
    exact h
  | cons key keys ih =>
    rw [List.flatMap_cons, List.length_append] at hroom
    rw [List.flatMap_cons, ← List.append_assoc]
    refine ih (h.sprintfS (by omega) (length_keyText key).symm) ?_
    rw [List.length_append]
    omega

lemma IniWriter.Wrote.putSection {size : Nat} {s : WIniFileSection} {text : List UInt8}
    {w : IniWriter} (h : w.Wrote size text) (hroom : text.length + (sectionText s).length < size) :
    (w.putSection size s).Wrote size (text ++ sectionText s) := by
  simp only [sectionText, List.length_append] at hroom
  have hname : (w.sprintfS size (LBRACKET :: s.name ++ [RBRACKET, LF])
      (s.name.length + 3)).Wrote size (text ++ (LBRACKET :: s.name ++ [RBRACKET, LF])) :=
    h.sprintfS (by rw [List.length_append]; omega) (by simp)
  have hkeys := hname.putKeys (by simp only [List.length_append]; omega :
    _ + (s.keys.items.flatMap keyText).length < size)
  have hend := hkeys.sprintfS (by simp only [List.length_append]; omega :
    _ + ([LF] : List UInt8).length < size) rfl
  rw [List.append_assoc, List.append_assoc] at hend
  rw [sectionText, List.append_assoc]
  exact hend

lemma IniWriter.Wrote.putSections {size : Nat} {sections : List WIniFileSection}
    {text : List UInt8} {w : IniWriter} (h : w.Wrote size text)
    (hroom : text.length + (sections.flatMap sectionText).length < size) :
    (sections.foldl (IniWriter.putSection size) w).Wrote size
      (text ++ sections.flatMap sectionText) := by
  induction sections generalizing text w with
  | nil =>
    rw [List.flatMap_nil, List.append_nil]
    exact h
  | cons s sections ih =>
    rw [List.flatMap_cons, List.length_append] at hroom
    rw [List.flatMap_cons, ← List.append_assoc]
    refine ih (h.putSection (by omega)) ?_
    rw [List.length_append]
    omega

/-- The buffer holds the text and its end, inside of the size that is computed. -/
lemma iniFileWriteBuffer_spec (m : Nat → UInt8) (ini : WIniFile) :
    (iniFileWriteBuffer m ini).top ≤ iniFileSize ini ∧
      readList (iniFileWriteBuffer m ini).buffer 0 (iniFileSize ini) = iniText ini ++ [0] := by
  have hstart : (⟨m, 0, 0⟩ : IniWriter).Wrote (iniFileSize ini) [] := ⟨rfl, rfl, Nat.zero_le _⟩
  have hsize := iniFileSize_eq ini
  have hwrote := hstart.putSections (by
    rw [List.length_nil, Nat.zero_add, ← iniText]
    omega : ([] : List UInt8).length + (ini.sections.items.flatMap sectionText).length < _)
  rw [List.nil_append, ← iniText] at hwrote
  rw [iniFileWriteBuffer]
  generalize ini.sections.items.foldl (IniWriter.putSection (iniFileSize ini)) ⟨m, 0, 0⟩ = w at *
  have hoffset := hwrote.offset
  have htop := hwrote.top
  dsimp only
  constructor
  · omega
  · rw [hsize, readList_add, readList_writeList_of_disjoint (by omega), hwrote.buffer, hoffset,
      Nat.zero_add]
    congr 1
    have hzero : readList (writeList w.buffer (iniText ini).length [0]) (iniText ini).length
        ([0] : List UInt8).length = [0] := readList_writeList
    exact hzero

/-! ### Reading -/

/-- Reading goes on with some text, and ends with a file of some contents. -/
def Reads (ini : WIniFile) (index : Option Nat) (text : List UInt8)
    (contents : List (List UInt8 × List WIniFileKey)) : Prop :=
  ∃ fuel ≤ text.length + 1, ∃ ini', ini'.contents = contents ∧ loop iniFileLoadRound fuel
    ⟨ini, index, (iniFileLoadNextLine text).1, (iniFileLoadNextLine text).2⟩ = some (some ini')

variable {index : Option Nat} {line rest : List UInt8}
  {contents : List (List UInt8 × List WIniFileKey)}

lemma iniFileLoadNextLine_lf : iniFileLoadNextLine (LF :: rest) = iniFileLoadNextLine rest := by
  rw [iniFileLoadNextLine, iniFileLoadNextLine, strtokS, List.dropWhile_cons_of_pos (by decide)]
  rfl

lemma iniFileLoadNextLine_line (hne : line ≠ []) (hline : ∀ c ∈ line, c ≠ CR ∧ c ≠ LF) :
    iniFileLoadNextLine (line ++ LF :: rest) = (some line, rest) := by
  have hLF : ∀ c ∈ line, decide (c ≠ LF) = true := fun c hc => decide_eq_true (hline c hc).2
  have hskip : (line ++ LF :: rest).dropWhile (· = LF) = line ++ LF :: rest := by
    obtain ⟨c, line', rfl⟩ := List.exists_cons_of_ne_nil hne
    refine List.dropWhile_cons_of_neg (p := fun c => decide (c = LF)) ?_
    rw [decide_eq_true_eq]
    exact (hline c List.mem_cons_self).2
  have htoken : strtokS (line ++ LF :: rest) = some (line, rest) := by
    simp only [strtokS, hskip, List.takeWhile_append_of_pos hLF, List.dropWhile_append_of_pos hLF]
    simp
  have hCR : line.getLast? ≠ some CR := fun hlast =>
    (hline _ (List.mem_of_getLast? hlast)).1 rfl
  have hlength : ¬line.length < 1 := by
    have hpos := List.length_pos_of_ne_nil hne
    omega
  rw [iniFileLoadNextLine, htoken]
  simp only [if_neg hCR, if_neg hlength]

lemma reads_end : Reads ini index [] ini.contents := ⟨1, le_rfl, ini, rfl, rfl⟩

lemma reads_lf (h : Reads ini index rest contents) : Reads ini index (LF :: rest) contents := by
  obtain ⟨fuel, hfuel, ini', hcontents, hloop⟩ := h
  refine ⟨fuel, hfuel.trans (Nat.le_succ _), ini', hcontents, ?_⟩
  rw [iniFileLoadNextLine_lf]
  exact hloop

/-- A line is taken, and reading goes on behind it. -/
lemma reads_line {ini' : WIniFile} {index' : Option Nat} (hne : line ≠ [])
    (hline : ∀ c ∈ line, c ≠ CR ∧ c ≠ LF)
    (hload : iniFileLoadLine ini index line = some (ini', index'))
    (h : Reads ini' index' rest contents) : Reads ini index (line ++ LF :: rest) contents := by
  obtain ⟨fuel, hfuel, last, hcontents, hloop⟩ := h
  refine ⟨fuel + 1, ?_, last, hcontents, ?_⟩
  · rw [List.length_append, List.length_cons]
    omega
  · rw [iniFileLoadNextLine_line hne hline, loop, iniFileLoadRound]
    simp only [hload]
    exact hloop

lemma DistinctNames.not_found {names later : List (List UInt8)}
    (h : DistinctNames (names ++ name :: later)) : ∀ s ∈ names, stricmpEqual name s = false :=
  fun s hs => (List.pairwise_append.mp h).2.2 s hs name List.mem_cons_self

/-- The keys of the last section are read one after the other. -/
lemma reads_keys {keys : List WIniFileKey} {s : WIniFileSection} {before : List WIniFileSection}
    (hplain : ∀ key ∈ keys, PlainKey key.name key.value)
    (hdistinct : DistinctNames ((s.keys.items ++ keys).map (·.name)))
    (hini : ini.sections.items = before ++ [s])
    (hrest : ∀ (ini' : WIniFile) (s' : WIniFileSection), ini'.sections.items = before ++ [s'] →
      s'.name = s.name → s'.keys.items = s.keys.items ++ keys →
        Reads ini' (some before.length) rest contents) :
    Reads ini (some before.length) (keys.flatMap keyText ++ rest) contents := by
  induction keys generalizing s ini with
  | nil => exact hrest ini s hini rfl (List.append_nil _).symm
  | cons key keys ih =>
    rw [List.forall_mem_cons] at hplain
    have hkey : PlainKey key.name key.value := hplain.1
    rw [List.map_append, List.map_cons] at hdistinct
    -- the key is not there yet, so it goes behind the others
    have hadd : iniFileAddKey key.name key.value s =
        { s with keys := s.keys.push ⟨key.name, key.value⟩ } := by
      have hfound : iniFileGetKey s key.name = none :=
        List.findIdx?_eq_none_iff.mpr fun other hother =>
          hdistinct.not_found _ (List.mem_map_of_mem hother)
      rw [iniFileAddKey, hfound]
    have htext : (key :: keys).flatMap keyText ++ rest =
        (key.name ++ EQUALS :: key.value) ++ LF :: (keys.flatMap keyText ++ rest) := by
      simp only [List.flatMap_cons, keyText, List.append_assoc, List.cons_append, List.nil_append]
    rw [htext]
    refine reads_line (by simp) (fun c hc => ?_) (iniFileLoadLine_key hkey before.length)
      (ih (s := iniFileAddKey key.name key.value s) hplain.2 ?_ ?_
        fun ini' s' hini' hname hkeys => ?_)
    · rcases List.mem_append.mp hc with hc | hc
      · exact (hkey.name_chars c hc).2.2
      · rcases List.mem_cons.mp hc with rfl | hc
        · decide
        · exact (hkey.value_chars c hc).2
    · rw [hadd]
      show DistinctNames (((s.keys.items ++ [key]) ++ keys).map _)
      rw [List.append_assoc, List.map_append]
      exact hdistinct
    · show ini.sections.items.modify _ _ = _
      rw [hini, modify_length_append]
    · rw [hadd] at hname hkeys
      refine hrest ini' s' hini' hname (hkeys.trans ?_)
      show (s.keys.items ++ [key]) ++ keys = _
      rw [List.append_assoc]
      rfl

/-- The sections are read one after the other. -/
lemma reads_sections {sections : List WIniFileSection} (hgood : ∀ s ∈ sections, s.Good)
    (hdistinct : DistinctNames ((ini.sections.items ++ sections).map (·.name))) :
    Reads ini index (sections.flatMap sectionText ++ [LF])
      (ini.contents ++ sections.map fun s => (s.name, s.keys.items)) := by
  induction sections generalizing ini index with
  | nil =>
    rw [List.map_nil, List.append_nil]
    exact reads_lf reads_end
  | cons s sections ih =>
    rw [List.forall_mem_cons] at hgood
    have hs : s.Good := hgood.1
    rw [List.map_append, List.map_cons] at hdistinct
    -- the section is not there yet, so it goes behind the others
    have hadd : iniFileAddSection ini s.name =
        (⟨ini.sections.push (iniFileSectionNew s.name)⟩, ini.sections.items.length) := by
      have hfound : iniFileGetSection ini s.name = none :=
        List.findIdx?_eq_none_iff.mpr fun other hother =>
          hdistinct.not_found _ (List.mem_map_of_mem hother)
      rw [iniFileAddSection, hfound]
    have htext : (s :: sections).flatMap sectionText ++ [LF] =
        (LBRACKET :: s.name ++ [RBRACKET]) ++
          LF :: (s.keys.items.flatMap keyText ++ LF :: (sections.flatMap sectionText ++ [LF])) := by
      simp only [List.flatMap_cons, sectionText, List.append_assoc, List.cons_append,
        List.nil_append]
    have hload : iniFileLoadLine ini index (LBRACKET :: s.name ++ [RBRACKET]) = _ :=
      iniFileLoadLine_section hs.plain
    have hindex : (ini.sections.items ++ [iniFileSectionNew s.name]).length - 1 =
        ini.sections.items.length := by
      rw [List.length_append]
      rfl
    rw [hadd] at hload
    rw [htext]
    refine reads_line (List.cons_ne_nil _ _) (fun c hc => ?_) hload ?_
    · rcases List.mem_append.mp hc with hc | hc
      · rcases List.mem_cons.mp hc with rfl | hc
        · decide
        · exact (hs.plain c hc).2.2
      · rw [List.mem_singleton.mp hc]
        decide
    · show Reads _ (some ((ini.sections.items ++ [iniFileSectionNew s.name]).length - 1)) _ _
      rw [hindex]
      refine reads_keys (s := iniFileSectionNew s.name) hs.keys hs.distinct rfl
        fun ini' s' hini' hname hkeys => reads_lf ?_
      have hcontents : ini'.contents = ini.contents ++ [(s.name, s.keys.items)] := by
        rw [WIniFile.contents, hini', List.map_append, List.map_singleton, hname, hkeys]
        rfl
      have hrest : Reads ini' (some ini.sections.items.length) _ _ := ih hgood.2 (by
        rw [hini', List.map_append, List.map_append, List.map_singleton, hname, List.append_assoc]
        exact hdistinct)
      rw [hcontents, List.append_assoc] at hrest
      exact hrest

/-! ### The round trip -/

lemma chars_iniText (h : ini.Good) : ∀ c ∈ iniText ini, c ≠ 0 := by
  intro c hc
  obtain ⟨s, hs, hc⟩ := List.mem_flatMap.mp hc
  have hgood := h.sections s hs
  simp only [sectionText, List.mem_append, List.mem_cons, List.not_mem_nil, or_false] at hc
  rcases hc with (((rfl | hc) | rfl | rfl) | hc) | rfl
  · decide
  · exact (hgood.plain c hc).1
  · decide
  · decide
  · obtain ⟨key, hkey, hc⟩ := List.mem_flatMap.mp hc
    simp only [keyText, List.mem_append, List.mem_cons, List.not_mem_nil, or_false] at hc
    have hplain := hgood.keys key hkey
    rcases hc with (hc | rfl | hc) | rfl
    · exact (hplain.name_chars c hc).1
    · decide
    · exact (hplain.value_chars c hc).1
    · decide
  · decide

lemma contents_iniFileReadBuffer (h : ini.Good) (hne : ini.sections.items ≠ []) :
    ∃ ini', iniFileReadBuffer iniFileNew (iniText ini ++ [0]) = some ini' ∧
      ini'.contents = ini.contents := by
  have htext : cString (iniText ini ++ [0]) 0 = iniText ini := cString_append_zero (chars_iniText h)
  have hlength : ¬(iniText ini).length < 1 := by
    obtain ⟨s, sections, hs⟩ := List.exists_cons_of_ne_nil hne
    rw [iniText, hs, List.flatMap_cons, sectionText]
    simp
  have hreads : Reads iniFileNew none _ _ := reads_sections h.sections h.distinct
  obtain ⟨fuel, hfuel, ini', hcontents, hloop⟩ := hreads
  refine ⟨ini', ?_, hcontents⟩
  rw [iniFileReadBuffer, htext, if_neg hlength, iniFileLoad]
  exact congrArg Option.join (loop_mono hloop hfuel)

/-- Strings that can be written wherever they stand: keys without blanks, and values without quotes
that do not begin with a blank. -/
def IniCall.IsText (call : IniCall) : Prop :=
  PlainSection call.sectionName ∧
    (∀ c ∈ call.key, isBlank c = false ∧ c ∉ [0, EQUALS, SEMICOLON, LBRACKET, CR, LF]) ∧
    (∀ c ∈ call.value, c ∉ [0, QUOTE, CR, LF]) ∧ ∀ c ∈ call.value.head?, isBlank c = false

instance (call : IniCall) : Decidable call.IsText :=
  inferInstanceAs (Decidable ((∀ c ∈ call.sectionName, _) ∧ _ ∧ _ ∧ _))

lemma IniCall.IsText.plain {call : IniCall} (h : call.IsText) : call.Plain := by
  obtain ⟨hsection, hkey, hvalue, hblank⟩ := h
  simp only [List.mem_cons, List.not_mem_nil, or_false, not_or] at hkey hvalue
  refine ⟨hsection, ⟨fun c hc => ?_, ⟨fun hc => ?_, fun hc => ?_⟩, fun c hc => ?_, fun c hc => ?_,
    fun c hc => ?_, fun begin blanks hquote => ?_⟩⟩
  · obtain ⟨-, hzero, hequals, -, -, hcr, hlf⟩ := hkey c hc
    exact ⟨hzero, hequals, hcr, hlf⟩
  · exact (hkey SEMICOLON (List.mem_of_head? hc)).2.2.2.1 rfl
  · exact (hkey LBRACKET (List.mem_of_head? hc)).2.2.2.2.1 rfl
  · exact (hkey c (List.mem_of_getLast? hc)).1
  · obtain ⟨hzero, -, hcr, hlf⟩ := hvalue c hc
    exact ⟨hzero, hcr, hlf⟩
  · exact ⟨hblank c hc, (hvalue c (List.mem_of_head? hc)).2.1⟩
  · have hmem : QUOTE ∈ call.value := hquote ▸ List.mem_append_right begin List.mem_cons_self
    exact absurd rfl (hvalue QUOTE hmem).2.1

/-- Keys of the sections `a` and `b b`; the first one is set again as `K` of the section `A`. -/
def twoSections : List IniCall :=
  [⟨[0x61], [0x6B], [0x31]⟩, ⟨[0x62, 0x20, 0x62], [0x78], [0x63, 0x20, 0x64]⟩,
    ⟨[0x61], [0x6C], [0x33]⟩, ⟨[0x41], [0x4B], [0x32]⟩]

end FreeRdp
