import SistemaMonitoreo.Scanf

namespace SistemaMonitoreo.Meminfo

open LibC Scanf

def scanMeminfo (fmt : String) (buffer : List Char) : Option (BitVec 64) :=
  match sscanf (cstr buffer) (format fmt.toList) with
  | [.u64 v] => some v
  | _ => none

/-- `total_mem_aux` (or `free_mem_aux`) after the loop: the value of the first line on which
`sscanf` returns 1, and 0 when there is none. -/
def meminfoAux (fmt : String) (text : List Char) : BitVec 64 :=
  ((lines bufferSize text).findSome? (scanMeminfo fmt)).getD 0

/-- `get_memory_total` and `get_memory_free` differ only in their format: the value in MB,
or `-1.0` when /proc/meminfo cannot be opened or the value read is 0 or missing. -/
def meminfoValue (fmt : String) : Option (List Char) → ℚ
  | none => -1
  | some text =>
    if meminfoAux fmt text = 0 then -1 else ((meminfoAux fmt text).toNat : ℚ) / 1024

def getMemoryTotal (meminfo : Option (List Char)) : ℚ :=
  meminfoValue "MemTotal: %llu kB" meminfo

def getMemoryFree (meminfo : Option (List Char)) : ℚ :=
  meminfoValue "MemAvailable: %llu kB" meminfo

/-- `get_memory_usage` opens /proc/meminfo twice: `totalRead` is what `get_memory_total` reads,
`freeRead` what `get_memory_free` reads after it. -/
def getMemoryUsage (totalRead freeRead : Option (List Char)) : ℚ :=
  let totalMem := getMemoryTotal totalRead
  let freeMem := getMemoryFree freeRead
  if totalMem > 0 then (totalMem - freeMem) / totalMem * 100 else -1

/-- `get_memory_used` reads the free memory first, then the total. -/
def getMemoryUsed (freeRead totalRead : Option (List Char)) : ℚ :=
  let freeMem := getMemoryFree freeRead
  let totalMem := getMemoryTotal totalRead
  totalMem - freeMem

theorem meminfoValue_some (fmt : String) (text : List Char) (h : meminfoAux fmt text ≠ 0) :
    meminfoValue fmt (some text) = ((meminfoAux fmt text).toNat : ℚ) / 1024 :=
  if_neg h

theorem meminfoValue_cases (fmt : String) (meminfo : Option (List Char)) :
    meminfoValue fmt meminfo = -1 ∨ 0 < meminfoValue fmt meminfo := by
  cases meminfo with
  | none => exact .inl rfl
  | some text =>
    by_cases h : meminfoAux fmt text = 0
    · exact .inl (by simp [meminfoValue, h])
    · have hpos : (0 : ℚ) < (meminfoAux fmt text).toNat := by exact_mod_cast toNat_pos h
      exact .inr (by simp only [meminfoValue, h, ↓reduceIte]; exact div_pos hpos (by norm_num))

/-- Without a `MemAvailable` line `get_memory_free` returns `-1.0`, which `get_memory_usage`
subtracts as if it were a size: 1 MB of total memory is then 200 % used. -/
theorem getMemoryUsage_no_available :
    getMemoryUsage (some "MemTotal: 1024 kB\n".toList) (some "MemTotal: 1024 kB\n".toList) = 200 := by
  have ht : meminfoAux "MemTotal: %llu kB" "MemTotal: 1024 kB\n".toList ≠ 0 ∧
      (meminfoAux "MemTotal: %llu kB" "MemTotal: 1024 kB\n".toList).toNat = 1024 := by decide
  have hf : meminfoAux "MemAvailable: %llu kB" "MemTotal: 1024 kB\n".toList = 0 := by decide
  simp only [getMemoryUsage, getMemoryTotal, getMemoryFree, meminfoValue, ht.1, ht.2, hf,
    ↓reduceIte]
  norm_num


/-- A line of /proc/meminfo as the kernel prints it, before its newline: the name, a colon,
padding, the value, and ` kB` for sizes (the `HugePages_` counts have no unit). -/
def meminfoLineText (name : List Char) (pad : Nat) (value : BitVec 64) (kB : Bool) : List Char :=
  name ++ ':' :: (List.replicate pad ' ' ++ decimal value.toNat ++ if kB then " kB".toList else [])

structure MeminfoLine where
  name : List Char
  pad : Nat
  value : BitVec 64
  kB : Bool
  name_chars : ∀ c ∈ name, c ≠ ':' ∧ isspace c = false ∧ c ≠ Char.ofNat 0
  fits : (meminfoLineText name pad value kB).length + 1 < bufferSize

def MeminfoLine.text (l : MeminfoLine) : List Char := meminfoLineText l.name l.pad l.value l.kB

/-- A /proc/meminfo of the kernel: its lines, each ended by a newline. -/
def meminfoText (ls : List MeminfoLine) : List Char := ls.flatMap fun l => l.text ++ ['\n']

theorem MeminfoLine.mem_text (l : MeminfoLine) (c : Char) (hc : c ∈ l.text) :
    c ∈ l.name ∨ c = ':' ∨ c = ' ' ∨ c.isDigit ∨ c = 'k' ∨ c = 'B' := by
  simp only [MeminfoLine.text, meminfoLineText, List.mem_append, List.mem_cons,
    List.mem_replicate] at hc
  rcases hc with hc | rfl | (⟨-, rfl⟩ | hc) | hc
  · exact .inl hc
  · exact .inr (.inl rfl)
  · exact .inr (.inr (.inl rfl))
  · exact .inr (.inr (.inr (.inl (decimal_isDigit _ c hc))))
  · split at hc
    · simp only [String.toList, List.mem_cons, List.not_mem_nil, or_false] at hc
      rcases hc with rfl | rfl | rfl
      · exact .inr (.inr (.inl rfl))
      · exact .inr (.inr (.inr (.inr (.inl rfl))))
      · exact .inr (.inr (.inr (.inr (.inr rfl))))
    · cases hc

theorem MeminfoLine.not_mem_text (l : MeminfoLine) (x : Char) (hname : x ∉ l.name)
    (hd : x.isDigit = false) (hx : x ≠ ':' ∧ x ≠ ' ' ∧ x ≠ 'k' ∧ x ≠ 'B') : x ∉ l.text := fun h => by
  rcases l.mem_text x h with h | rfl | rfl | h | rfl | rfl
  · exact hname h
  · exact hx.1 rfl
  · exact hx.2.1 rfl
  · exact absurd h (by simp [hd])
  · exact hx.2.2.1 rfl
  · exact hx.2.2.2 rfl

theorem MeminfoLine.newline_not_mem (l : MeminfoLine) : '\n' ∉ l.text :=
  l.not_mem_text _ (fun h => absurd (l.name_chars _ h).2.1 (by decide)) (by decide) (by decide)

theorem MeminfoLine.cstr_text (l : MeminfoLine) : cstr (l.text ++ ['\n']) = l.text ++ ['\n'] :=
  cstr_eq_self _ fun c hc e => by
    subst e
    rw [List.mem_append, List.mem_singleton] at hc
    exact hc.elim (l.not_mem_text _ (fun h => (l.name_chars _ h).2.2 rfl) (by decide) (by decide))
      (by decide)

theorem lines_meminfoText (ls : List MeminfoLine) :
    lines bufferSize (meminfoText ls) = ls.map fun l => l.text ++ ['\n'] := by
  induction ls with
  | nil => rfl
  | cons l ls ih =>
    rw [meminfoText, List.flatMap_cons, List.append_assoc, List.singleton_append,
      lines_line _ _ _ l.newline_not_mem (by have := l.fits; simp only [MeminfoLine.text]; omega)]
    exact congrArg _ ih

theorem prefix_colon_iff (key name rest : List Char) (hk : ':' ∉ key) (hn : ':' ∉ name) :
    key ++ [':'] <+: name ++ ':' :: rest ↔ key = name := by
  refine ⟨fun h => ?_, fun h => h ▸ ⟨rest, by simp⟩⟩
  induction key generalizing name with
  | nil =>
    cases name with
    | nil => rfl
    | cons d n =>
      rw [List.nil_append, List.cons_append, List.cons_prefix_cons] at h
      exact absurd (h.1 ▸ List.mem_cons_self _ _) hn
  | cons c k ih =>
    cases name with
    | nil =>
      rw [List.cons_append, List.nil_append, List.cons_prefix_cons] at h
      exact absurd (h.1 ▸ List.mem_cons_self _ _) hk
    | cons d n =>
      rw [List.cons_append, List.cons_append, List.cons_prefix_cons] at h
      rw [List.mem_cons, not_or] at hk hn
      rw [h.1, ih n hk.2 hn.2 h.2]

def keyFormat (key : List Char) : List Directive :=
  (key ++ [':']).map .lit ++ [.space, .conv .llu, .space, .lit 'k', .lit 'B']

theorem sscanf_keyFormat (key : List Char) (hk : ':' ∉ key) (l : MeminfoLine) :
    sscanf (l.text ++ ['\n']) (keyFormat key) = if l.name = key then [.u64 l.value] else [] := by
  have hn : ':' ∉ l.name := fun h => (l.name_chars _ h).1 rfl
  have htext : l.text ++ ['\n'] = l.name ++ ':' :: (List.replicate l.pad ' ' ++
      (decimal l.value.toNat ++ ((if l.kB then " kB".toList else []) ++ ['\n']))) := by
    simp only [MeminfoLine.text, meminfoLineText, List.append_assoc, List.cons_append]
  have hpre := prefix_colon_iff key l.name (List.replicate l.pad ' ' ++
    (decimal l.value.toNat ++ ((if l.kB then " kB".toList else []) ++ ['\n']))) hk hn
  rw [keyFormat, sscanf_lits, htext]
  by_cases h : key = l.name
  · subst h
    have hsp : ∀ c ∈ List.replicate l.pad ' ', isspace c = true := fun c hc => by
      rw [List.eq_of_mem_replicate hc]
      rfl
    have hunit : ∀ c ∈ ((if l.kB then " kB".toList else []) ++ ['\n']).head?, isspace c = true := by
      cases l.kB <;> decide
    have hdrop : (l.name ++ ':' :: (List.replicate l.pad ' ' ++ (decimal l.value.toNat ++
        ((if l.kB then " kB".toList else []) ++ ['\n'])))).drop (l.name ++ [':']).length =
        List.replicate l.pad ' ' ++ (decimal l.value.toNat ++
          ((if l.kB then " kB".toList else []) ++ ['\n'])) := by
      simp
    rw [if_pos (hpre.2 rfl), if_pos rfl, hdrop, sscanf, List.dropWhile_append_of_pos hsp,
      dropWhile_of_head _ _ ((reads_llu_decimal _).head_append _),
      sscanf_reads_cons (reads_llu_decimal _) _ hunit,
      sscanf_nil_of_no_conv _ _ (by decide)]
  · rw [if_neg (mt hpre.1 h), if_neg (Ne.symm h)]

theorem scanMeminfo_line (fmt : String) (key : List Char) (hfmt : format fmt.toList = keyFormat key)
    (hk : ':' ∉ key) (l : MeminfoLine) :
    scanMeminfo fmt (l.text ++ ['\n']) = if l.name = key then some l.value else none := by
  rw [scanMeminfo, l.cstr_text, hfmt, sscanf_keyFormat key hk l]
  split_ifs <;> rfl

theorem meminfoAux_meminfoText (fmt : String) (key : List Char)
    (hfmt : format fmt.toList = keyFormat key) (hk : ':' ∉ key) (ls : List MeminfoLine) :
    meminfoAux fmt (meminfoText ls) =
      ((ls.find? fun l => l.name = key).map MeminfoLine.value).getD 0 := by
  rw [meminfoAux, lines_meminfoText]
  congr 1
  induction ls with
  | nil => rfl
  | cons l ls ih =>
    rw [List.map_cons, List.findSome?_cons, scanMeminfo_line fmt key hfmt hk, List.find?_cons]
    by_cases h : l.name = key
    · simp only [h, ↓reduceIte, decide_True, Option.map_some']
    · simp only [h, ↓reduceIte, decide_False, ih]

/-- On every /proc/meminfo in the kernel's format, `get_memory_total` and `get_memory_free`
return the value of the first `MemTotal` and `MemAvailable` line in MB, and `-1.0` when that line
is missing or reads 0. -/
theorem meminfo_readers (ls : List MeminfoLine) :
    getMemoryTotal (some (meminfoText ls)) =
        (match ls.find? fun l => l.name = "MemTotal".toList with
          | some l => if l.value = 0 then -1 else (l.value.toNat : ℚ) / 1024
          | none => -1) ∧
      getMemoryFree (some (meminfoText ls)) =
        (match ls.find? fun l => l.name = "MemAvailable".toList with
          | some l => if l.value = 0 then -1 else (l.value.toNat : ℚ) / 1024
          | none => -1) := by
  have ht := meminfoAux_meminfoText "MemTotal: %llu kB" "MemTotal".toList (by decide) (by decide) ls
  have hf := meminfoAux_meminfoText "MemAvailable: %llu kB" "MemAvailable".toList (by decide)
    (by decide) ls
  constructor
  · rw [getMemoryTotal, meminfoValue, ht]
    cases List.find? (fun l => decide (l.name = "MemTotal".toList)) ls <;> rfl
  · rw [getMemoryFree, meminfoValue, hf]
    cases List.find? (fun l => decide (l.name = "MemAvailable".toList)) ls <;> rfl

end SistemaMonitoreo.Meminfo
