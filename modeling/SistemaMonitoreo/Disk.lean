import SistemaMonitoreo.LibC
import SistemaMonitoreo.Network

namespace SistemaMonitoreo.Disk

open LibC Network

structure DiskMetrics where
  readTimeMs : BitVec 64
  writeTimeMs : BitVec 64
  ioInProgress : BitVec 64
  ioTimeMs : BitVec 64
  deriving DecidableEq, Repr

/-- The zero-initialised global `metrics_disk`. -/
def DiskMetrics.zero : DiskMetrics := ⟨0, 0, 0, 0⟩

/-- The body of the field loop: the token numbered `field` goes to the member the code
assigns it, in the order of its tests. -/
def storeField (field : Nat) (token : List Char) (m : DiskMetrics) : DiskMetrics :=
  if field = 9 then { m with ioInProgress := strtoul token }
  else if field = 4 then { m with readTimeMs := strtoul token }
  else if field = 8 then { m with writeTimeMs := strtoul token }
  else if field = 10 then { m with ioTimeMs := strtoul token }
  else m

/-- `while (token != NULL) { ...; token = strtok (NULL, " "); field++; }`. Every token is at
least one character, so the length of the line is enough fuel. -/
def fieldLoop (field : Nat) (m : DiskMetrics) :
    Nat → Option (List Char) × List Char → DiskMetrics
  | fuel + 1, (some token, rest) =>
    fieldLoop (field + 1) (storeField field token m) fuel (strtok ' ' rest)
  | _, _ => m

/-- `get_disk_metrics`: the first line containing `sda` is split on spaces and its fields
stored; `-1` when /proc/diskstats cannot be opened or no line contains `sda`. -/
def getDiskMetrics (diskstats : Option (List Char)) (m : DiskMetrics) : Int × DiskMetrics :=
  match diskstats with
  | none => (-1, m)
  | some text =>
    match (lines bufferSize text).find? (fun buffer => decide ("sda".toList <:+: cstr buffer)) with
    | none => (-1, m)
    | some buffer => (0, fieldLoop 0 m (cstr buffer).length (strtok ' ' (cstr buffer)))

theorem getDiskMetrics_cases (diskstats : Option (List Char)) (m : DiskMetrics) :
    getDiskMetrics diskstats m = (-1, m) ∨ (getDiskMetrics diskstats m).1 = 0 := by
  unfold getDiskMetrics
  split
  · exact .inl rfl
  · split
    · exact .inl rfl
    · exact .inr rfl

def storeFields : Nat → List (List Char) → DiskMetrics → DiskMetrics
  | _, [], m => m
  | field, token :: toks, m => storeFields (field + 1) toks (storeField field token m)

theorem fieldLoop_eq (field : Nat) (m : DiskMetrics) (fuel : Nat) (rest : List Char)
    (toks : List (List Char)) (h : TokensFrom ' ' rest toks) (hfuel : toks.length ≤ fuel) :
    fieldLoop field m fuel (strtok ' ' rest) = storeFields field toks m := by
  induction toks generalizing field m fuel rest with
  | nil =>
    rw [show strtok ' ' rest = (none, []) from h]
    cases fuel <;> rfl
  | cons t toks ih =>
    obtain ⟨r, hs, hr⟩ := h
    obtain ⟨fuel, rfl⟩ : ∃ f, fuel = f + 1 := ⟨fuel - 1, by simp at hfuel; omega⟩
    rw [hs, fieldLoop, ih _ _ _ _ hr (by simpa using hfuel), storeFields]

def stored (field : Nat) (toks : List (List Char)) (i : Nat) (d : BitVec 64) : BitVec 64 :=
  if field ≤ i ∧ i < field + toks.length then strtoul (toks.getD (i - field) []) else d

theorem storeField_eq (field : Nat) (token : List Char) (m : DiskMetrics) :
    storeField field token m =
      ⟨if field = 4 then strtoul token else m.readTimeMs,
        if field = 8 then strtoul token else m.writeTimeMs,
        if field = 9 then strtoul token else m.ioInProgress,
        if field = 10 then strtoul token else m.ioTimeMs⟩ := by
  by_cases h4 : field = 4
  · subst h4
    rfl
  by_cases h8 : field = 8
  · subst h8
    rfl
  by_cases h9 : field = 9
  · subst h9
    rfl
  by_cases h10 : field = 10
  · subst h10
    rfl
  simp only [storeField, h4, h8, h9, h10, ↓reduceIte]

theorem stored_cons (field i : Nat) (t : List Char) (toks : List (List Char)) (d : BitVec 64) :
    stored (field + 1) toks i (if field = i then strtoul t else d) = stored field (t :: toks) i d := by
  unfold stored
  rcases Nat.lt_trichotomy field i with hlt | rfl | hgt
  · obtain ⟨j, rfl⟩ : ∃ j, i = field + 1 + j := ⟨i - field - 1, by omega⟩
    rw [if_neg (show ¬ field = field + 1 + j by omega), List.length_cons,
      show field + 1 + j - field = j + 1 by omega, Nat.add_sub_cancel_left, List.getD_cons_succ]
    exact if_congr (by omega) rfl rfl
  · rw [if_pos rfl, if_neg (show ¬ (field + 1 ≤ field ∧ field < field + 1 + toks.length) by omega),
      if_pos (show field ≤ field ∧ field < field + (t :: toks).length by simp), Nat.sub_self,
      List.getD_cons_zero]
  · rw [if_neg (show ¬ field = i by omega),
      if_neg (show ¬ (field + 1 ≤ i ∧ i < field + 1 + toks.length) by omega),
      if_neg (show ¬ (field ≤ i ∧ i < field + (t :: toks).length) by omega)]

theorem storeFields_eq (field : Nat) (toks : List (List Char)) (m : DiskMetrics) :
    storeFields field toks m =
      ⟨stored field toks 4 m.readTimeMs, stored field toks 8 m.writeTimeMs,
        stored field toks 9 m.ioInProgress, stored field toks 10 m.ioTimeMs⟩ := by
  induction toks generalizing field m with
  | nil =>
    simp only [storeFields, stored, List.length_nil, add_zero]
    simp only [show ∀ i, ¬ (field ≤ i ∧ i < field) from fun i => by omega, ↓reduceIte]
  | cons t toks ih =>
    rw [storeFields, ih, storeField_eq]
    simp only [stored_cons]

/-- A line of /proc/diskstats as the kernel prints it with `"%4d %7d %s"` and then its
counters: the major and minor numbers and the device name. -/
def diskLineBody (majorPad major minorPad minor : Nat) (device : List Char)
    (counters : List (Nat × BitVec 64)) : List Char :=
  List.replicate majorPad ' ' ++ decimal major ++ List.replicate (minorPad + 1) ' ' ++
    decimal minor ++ ' ' :: device ++ countersText counters

/-- A /proc/diskstats line in the kernel's layout, with at least the eleven counters of the
oldest format, shorter than 256 bytes with its newline. -/
structure DiskLine where
  majorPad : Nat
  major : Nat
  minorPad : Nat
  minor : Nat
  device : List Char
  counters : List (Nat × BitVec 64)
  device_ne_nil : device ≠ []
  device_chars : ∀ c ∈ device, c ≠ ' ' ∧ c ≠ '\n' ∧ c ≠ Char.ofNat 0
  counters_length : 11 ≤ counters.length
  body_length : (diskLineBody majorPad major minorPad minor device counters).length + 1 < 256

def DiskLine.text (l : DiskLine) : List Char :=
  diskLineBody l.majorPad l.major l.minorPad l.minor l.device l.counters ++ ['\n']

def DiskLine.column (l : DiskLine) (i : Nat) : BitVec 64 := (l.counters.getD (i - 3) (0, 0)).2

def diskstatsText : List DiskLine → List Char
  | [] => []
  | l :: ls => l.text ++ diskstatsText ls

theorem DiskLine.tokens (l : DiskLine) :
    ∃ toks, TokensFrom ' ' l.text toks ∧ toks.length = l.counters.length + 3 ∧
      ∀ i, 3 ≤ i → i < l.counters.length + 3 → strtoul (toks.getD i []) = l.column i := by
  obtain ⟨ctoks, hc, hlen, hval⟩ := tokensFrom_countersText l.counters
  obtain ⟨c, cs, hcs⟩ := List.exists_cons_of_ne_nil
    (List.ne_nil_of_length_pos (show 0 < l.counters.length by have := l.counters_length; omega))
  have hdig : ∀ n, ' ' ∉ decimal n := fun n h => absurd (decimal_isDigit n _ h) (by decide)
  have hdev : ' ' ∉ l.device := fun h => (l.device_chars _ h).1 rfl
  have htail : countersText l.counters ++ ['\n'] = ' ' :: (countersText l.counters ++ ['\n']).tail := by
    rw [hcs]
    simp [countersText, counterText, List.replicate_succ]
  have hc' : TokensFrom ' ' (countersText l.counters ++ ['\n']).tail ctoks :=
    (tokensFrom_congr ' ' (by rw [htail, strtok_delim]; rfl) ctoks).1 hc
  refine ⟨decimal l.major :: decimal l.minor :: l.device :: ctoks, ?_, ?_, ?_⟩
  · have htext : l.text = List.replicate l.majorPad ' ' ++ (decimal l.major ++ ' ' ::
        (List.replicate l.minorPad ' ' ++ (decimal l.minor ++ ' ' :: (l.device ++ ' ' ::
          (countersText l.counters ++ ['\n']).tail)))) := by
      rw [DiskLine.text, diskLineBody, List.append_assoc, List.append_assoc, htail]
      simp [List.replicate_succ]
    rw [htext]
    exact tokensFrom_pad_cons _ _ _ _ _ (decimal_ne_nil _) (hdig _) (tokensFrom_pad_cons _ _ _ _ _
      (decimal_ne_nil _) (hdig _) (tokensFrom_cons _ _ _ _ l.device_ne_nil hdev hc'))
  · have := l.counters_length
    simp only [List.length_cons, hlen]
    omega
  · intro i h3 hi
    obtain ⟨j, rfl⟩ : ∃ j, i = j + 3 := ⟨i - 3, by omega⟩
    simpa [DiskLine.column] using hval j (by omega)

theorem DiskLine.body_eq (l : DiskLine) :
    ∃ A B, diskLineBody l.majorPad l.major l.minorPad l.minor l.device l.counters =
      A ++ l.device ++ B ∧ (∀ c ∈ A, c = ' ' ∨ c.isDigit) ∧ ∀ c ∈ B, c = ' ' ∨ c.isDigit := by
  refine ⟨List.replicate l.majorPad ' ' ++ decimal l.major ++ List.replicate (l.minorPad + 1) ' ' ++
    decimal l.minor ++ [' '], countersText l.counters, by simp [diskLineBody], fun c hc => ?_,
    countersText_chars _⟩
  simp only [List.mem_append, List.mem_replicate, List.mem_singleton] at hc
  rcases hc with (((⟨-, rfl⟩ | hc) | ⟨-, rfl⟩) | hc) | rfl
  · exact .inl rfl
  · exact .inr (decimal_isDigit _ c hc)
  · exact .inl rfl
  · exact .inr (decimal_isDigit _ c hc)
  · exact .inl rfl

theorem DiskLine.mem_body (l : DiskLine) (c : Char)
    (hc : c ∈ diskLineBody l.majorPad l.major l.minorPad l.minor l.device l.counters)
    (hsp : c ≠ ' ') (hd : c.isDigit = false) : c ∈ l.device := by
  obtain ⟨A, B, he, hA, hB⟩ := l.body_eq
  rw [he, List.mem_append, List.mem_append] at hc
  have hnot : ¬ (c = ' ' ∨ c.isDigit) := by simp [hsp, hd]
  rcases hc with (hc | hc) | hc
  · exact absurd (hA c hc) hnot
  · exact hc
  · exact absurd (hB c hc) hnot

theorem DiskLine.newline_not_mem_body (l : DiskLine) :
    '\n' ∉ diskLineBody l.majorPad l.major l.minorPad l.minor l.device l.counters := fun h =>
  (l.device_chars _ (l.mem_body _ h (by decide) (by decide))).2.1 rfl

theorem DiskLine.cstr_text (l : DiskLine) : cstr l.text = l.text := by
  refine List.takeWhile_eq_self_iff.mpr fun c hc => ?_
  have : c ≠ Char.ofNat 0 := by
    rintro rfl
    rcases List.mem_append.mp hc with hc | hc
    · exact (l.device_chars _ (l.mem_body _ hc (by decide) (by decide))).2.2 rfl
    · exact absurd (List.mem_singleton.mp hc) (by decide)
  simpa using this

theorem DiskLine.infix_text_iff (l : DiskLine) (x : List Char) (hx : x ≠ [])
    (hchars : ∀ c ∈ x, c ≠ ' ' ∧ c.isDigit = false ∧ c ≠ '\n') :
    x <:+: l.text ↔ x <:+: l.device := by
  obtain ⟨A, B, he, hA, hB⟩ := l.body_eq
  rw [DiskLine.text, he, List.append_assoc]
  refine infix_middle_iff hx (fun c hc hcA => ?_) (fun c hc hcB => ?_)
  · obtain ⟨h1, h2, -⟩ := hchars c hc
    rcases hA c hcA with h | h
    · exact h1 h
    · simp [h] at h2
  · obtain ⟨h1, h2, h3⟩ := hchars c hc
    rcases List.mem_append.mp hcB with hcB | hcB
    · rcases hB c hcB with h | h
      · exact h1 h
      · simp [h] at h2
    · exact h3 (List.mem_singleton.mp hcB)

theorem lines_diskstatsText (ls : List DiskLine) :
    lines bufferSize (diskstatsText ls) = ls.map DiskLine.text := by
  induction ls with
  | nil => rfl
  | cons l ls ih =>
    have hlen := l.body_length
    rw [diskstatsText, DiskLine.text, List.append_assoc, List.singleton_append,
      lines_line _ _ _ l.newline_not_mem_body (by simp only [bufferSize]; omega), ih]
    rfl

/-- On a /proc/diskstats text in the kernel's layout, the call returns 0 exactly when the name
of some device contains `sda`; the first such line fills the struct from its columns 4, 8, 9
and 10. -/
theorem getDiskMetrics_diskstats (ls : List DiskLine) (m : DiskMetrics) :
    getDiskMetrics (some (diskstatsText ls)) m =
      match ls.find? fun l => decide ("sda".toList <:+: l.device) with
      | none => (-1, m)
      | some l => (0, ⟨l.column 4, l.column 8, l.column 9, l.column 10⟩) := by
  have hfind : (ls.map DiskLine.text).find? (fun buffer => decide ("sda".toList <:+: cstr buffer)) =
      (ls.find? fun l => decide ("sda".toList <:+: l.device)).map DiskLine.text := by
    rw [List.find?_map]
    congr 2
    funext l
    simp only [Function.comp, DiskLine.cstr_text, l.infix_text_iff "sda".toList (by decide) (by decide)]
  simp only [getDiskMetrics, lines_diskstatsText, hfind]
  cases ls.find? fun l => decide ("sda".toList <:+: l.device) with
  | none => rfl
  | some l =>
    obtain ⟨toks, ht, hlen, hval⟩ := l.tokens
    have h11 := l.counters_length
    have hcol : ∀ i d, 3 ≤ i → i ≤ 10 → stored 0 toks i d = l.column i := fun i d h3 h10 => by
      rw [stored, if_pos ⟨Nat.zero_le i, by omega⟩, Nat.sub_zero, hval i h3 (by omega)]
    simp only [Option.map_some', DiskLine.cstr_text]
    rw [fieldLoop_eq 0 m _ l.text toks ht (tokensFrom_length_le _ _ _ ht), storeFields_eq,
      hcol 4 _ (by omega) (by omega), hcol 8 _ (by omega) (by omega),
      hcol 9 _ (by omega) (by omega), hcol 10 _ (by omega) (by omega)]

def sampleSda : DiskLine where
  majorPad := 3
  major := 8
  minorPad := 6
  minor := 0
  device := "sda".toList
  counters := (List.range 11).map fun i => (0, BitVec.ofNat 64 i)
  device_ne_nil := by decide
  device_chars := by decide
  counters_length := by decide
  body_length := by
    have hc := countersText_length_le ((List.range 11).map fun i => ((0 : Nat), BitVec.ofNat 64 i))
    have hs : (((List.range 11).map fun i => ((0 : Nat), BitVec.ofNat 64 i)).map
        fun c => c.1 + 2 + c.2.toNat).sum = 77 := by decide
    have h8 := decimal_length_le 8
    have h0 := decimal_length_le 0
    have hn : "sda".toList.length = 3 := rfl
    simp only [diskLineBody, List.length_append, List.length_replicate, List.length_cons]
    omega

def sampleSda1 : DiskLine where
  majorPad := 3
  major := 8
  minorPad := 6
  minor := 1
  device := "sda1".toList
  counters := (List.range 11).map fun i => (0, BitVec.ofNat 64 (i + 1))
  device_ne_nil := by decide
  device_chars := by decide
  counters_length := by decide
  body_length := by
    have hc := countersText_length_le ((List.range 11).map fun i => ((0 : Nat), BitVec.ofNat 64 (i + 1)))
    have hs : (((List.range 11).map fun i => ((0 : Nat), BitVec.ofNat 64 (i + 1))).map
        fun c => c.1 + 2 + c.2.toNat).sum = 88 := by decide
    have h8 := decimal_length_le 8
    have h1 := decimal_length_le 1
    have hn : "sda1".toList.length = 4 := rfl
    simp only [diskLineBody, List.length_append, List.length_replicate, List.length_cons]
    omega

theorem getDiskMetrics_diskstats_sample :
    getDiskMetrics (some (diskstatsText [sampleSda])) .zero = (0, ⟨1, 5, 6, 7⟩) ∧
      getDiskMetrics (some (diskstatsText [sampleSda1, sampleSda])) .zero = (0, ⟨2, 6, 7, 8⟩) :=
  ⟨by rw [getDiskMetrics_diskstats]; rfl, by rw [getDiskMetrics_diskstats]; rfl⟩

end SistemaMonitoreo.Disk
