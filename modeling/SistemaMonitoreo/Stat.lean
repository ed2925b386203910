import SistemaMonitoreo.Cpu

namespace SistemaMonitoreo.Stat

open LibC Scanf Cpu

/-- The first buffer that a loop testing `strncmp (buffer, label, n) == 0` stops at, where `n`
is the length of `label`. -/
def findLabeled (label : String) (text : List Char) : Option (List Char) :=
  (lines bufferSize text).find? fun buffer => label.toList.isPrefixOf (cstr buffer)

/-- `get_running_processes`: the `%d` of the first `procs_running` line; `-1` when /proc/stat
cannot be opened or that count is 0, unreadable or missing. -/
def getRunningProcesses : Option (List Char) → Int
  | none => -1
  | some text =>
    let runningProcesses : Int :=
      match findLabeled "procs_running" text with
      | none => 0
      | some buffer =>
        match sscanf (cstr buffer) (format "procs_running %d".toList) with
        | [.int v] => v
        | _ => 0
    if runningProcesses = 0 then -1 else runningProcesses

/-- `get_context_switches`: the `%llu` of the first `ctxt` line, cast to `long long`. Only a
file that cannot be opened gives `-1`; a missing or unreadable count stays 0. -/
def getContextSwitches : Option (List Char) → Int
  | none => -1
  | some text =>
    let contextSwitches : BitVec 64 :=
      match findLabeled "ctxt" text with
      | none => 0
      | some buffer =>
        match sscanf (cstr buffer) (format "ctxt %llu".toList) with
        | [.u64 v] => v
        | _ => 0
    contextSwitches.toInt

theorem getRunningProcesses_missing (text : List Char)
    (h : findLabeled "procs_running" text = none) : getRunningProcesses (some text) = -1 := by
  simp [getRunningProcesses, h]

theorem getContextSwitches_missing (text : List Char) (h : findLabeled "ctxt" text = none) :
    getContextSwitches (some text) = 0 := by
  simp [getContextSwitches, h]


/-- A line of /proc/stat after the aggregate one: a label, then counters each after one space. -/
def labeledLine (label : List Char) (values : List Nat) : List Char :=
  label ++ values.flatMap fun v => ' ' :: decimal v

theorem mem_counters (values : List Nat) (c : Char)
    (hc : c ∈ values.flatMap fun v => ' ' :: decimal v) : c = ' ' ∨ c.isDigit := by
  simp only [List.mem_flatMap, List.mem_cons] at hc
  obtain ⟨v, -, rfl | h⟩ := hc
  · exact .inl rfl
  · exact .inr (decimal_isDigit v c h)

theorem newline_not_mem_labeledLine (label : List Char) (values : List Nat) (hlabel : '\n' ∉ label) :
    '\n' ∉ labeledLine label values := fun h => by
  rcases List.mem_append.mp h with h | h
  · exact hlabel h
  · rcases mem_counters values _ h with h | h
    · exact absurd h (by decide)
    · exact absurd h (by decide)

theorem find?_lines_labeledLine (w label : List Char) (values : List Nat) (rest : List Char)
    (hlabel : ∀ c ∈ label, c ≠ '\n' ∧ c ≠ Char.ofNat 0) (hlen : label.length < bufferSize - 1)
    (hw : ∀ c ∈ w.head?, c ≠ ' ' ∧ c.isDigit = false ∧ c ≠ '\n')
    (hskip : ∀ m, w.isPrefixOf (label ++ m) = false) :
    (lines bufferSize (labeledLine label values ++ '\n' :: rest)).find? (fun b => w.isPrefixOf (cstr b)) =
      (lines bufferSize rest).find? fun b => w.isPrefixOf (cstr b) := by
  obtain ⟨later, he, hlater⟩ := lines_long_line bufferSize (by decide) _ rest
    (newline_not_mem_labeledLine label values fun h => (hlabel _ h).1 rfl)
  have hwne : w ≠ [] := fun h => by simpa [h] using hskip []
  have hfirst : w.isPrefixOf (cstr ((labeledLine label values ++ ['\n']).take (bufferSize - 1))) =
      false := by
    rw [labeledLine, List.append_assoc, List.take_append_eq_append_take,
      List.take_of_length_le (by omega), cstr_append_of_nul_not_mem _ _ fun c hc => (hlabel c hc).2,
      hskip]
  have hlater' : later.find? (fun b => w.isPrefixOf (cstr b)) = none := by
    refine List.find?_eq_none.mpr fun x hx => ?_
    obtain ⟨i, hi, hx⟩ := hlater x hx
    rw [labeledLine, List.append_assoc, List.getElem?_append_right (by omega)] at hx
    cases hc : x.head? with
    | none =>
      rw [List.head?_eq_none_iff.mp hc]
      cases w with
      | nil => exact absurd rfl hwne
      | cons d w => simp [cstr, List.isPrefixOf]
    | some c =>
      rw [hc] at hx
      have hmem : c ∈ (values.flatMap fun v => ' ' :: decimal v) ++ ['\n'] := List.mem_iff_getElem?.mpr ⟨_, hx.symm⟩
      have hchar : c = ' ' ∨ c.isDigit ∨ c = '\n' := by
        rcases List.mem_append.mp hmem with h | h
        · rcases mem_counters values c h with h | h
          · exact .inl h
          · exact .inr (.inl h)
        · exact .inr (.inr (List.mem_singleton.mp h))
      have hnul : c ≠ Char.ofNat 0 := by
        rintro rfl
        rcases hchar with h | h | h <;> exact absurd h (by decide)
      rw [isPrefixOf_cstr_of_head w x c hc hnul hwne fun hwc => ?_]
      · simp
      · obtain ⟨h1, h2, h3⟩ := hw c hwc
        rcases hchar with h | h | h
        · exact h1 h
        · exact absurd h (by simp [h2])
        · exact h3 h
  rw [he, List.find?_append, List.find?_cons, hfirst]
  simp only [Bool.false_eq_true, ↓reduceIte, hlater', Option.none_or]

theorem find?_lines_labeledLine_self (w : List Char) (n : Nat) (rest : List Char)
    (hw : ∀ c ∈ w, c ≠ '\n' ∧ c ≠ Char.ofNat 0) (hfit : w.length + (decimal n).length + 3 ≤ bufferSize) :
    (lines bufferSize (labeledLine w [n] ++ '\n' :: rest)).find? (fun b => w.isPrefixOf (cstr b)) =
      some (labeledLine w [n] ++ ['\n']) := by
  rw [lines_line _ _ _ (newline_not_mem_labeledLine w [n] fun h => (hw _ h).1 rfl)
    (by simp only [labeledLine, List.flatMap_cons, List.flatMap_nil, List.append_nil,
      List.length_append, List.length_cons]; omega), List.find?_cons]
  have hp : w.isPrefixOf (cstr (labeledLine w [n] ++ ['\n'])) = true := by
    rw [labeledLine, List.append_assoc, cstr_append_of_nul_not_mem _ _ fun c hc => (hw c hc).2,
      List.isPrefixOf_iff_prefix]
    exact List.prefix_append _ _
  rw [hp]

theorem toInt_toNat (x : BitVec 32) : toInt false x.toNat = x.toInt := by
  have hx := x.isLt
  rw [BitVec.toInt_eq_toNat_bmod, toInt, if_neg Bool.false_ne_true,
    min_eq_right (by omega), max_eq_right (by omega)]

/-- /proc/stat as `show_stat` prints it: the aggregate line, one line per online CPU, the
interrupt counts (a line that may run to thousands of characters), then `ctxt`, `btime`,
`processes`, `procs_running`, `procs_blocked` and the softirq counts. -/
structure ProcStat where
  cpu : CpuSample
  guest : BitVec 64
  guestNice : BitVec 64
  cpus : List (BitVec 32 × List Nat)
  intr : List Nat
  ctxt : BitVec 64
  btime : Nat
  processes : Nat
  procsRunning : BitVec 32
  procsBlocked : Nat
  softirq : List Nat

def cpusText (cpus : List (BitVec 32 × List Nat)) : List Char :=
  cpus.flatMap fun c => labeledLine ("cpu".toList ++ decimal c.1.toNat) c.2 ++ ['\n']

def ProcStat.text (t : ProcStat) : List Char :=
  cpuLine t.cpu t.guest t.guestNice ++ '\n' :: (cpusText t.cpus ++
    (labeledLine "intr".toList t.intr ++ '\n' :: (labeledLine "ctxt".toList [t.ctxt.toNat] ++
    '\n' :: (labeledLine "btime".toList [t.btime] ++ '\n' :: (labeledLine "processes".toList
    [t.processes] ++ '\n' :: (labeledLine "procs_running".toList [t.procsRunning.toNat] ++
    '\n' :: (labeledLine "procs_blocked".toList [t.procsBlocked] ++ '\n' ::
    (labeledLine "softirq".toList t.softirq ++ ['\n']))))))))

theorem find?_lines_cpusText (w : List Char) (cpus : List (BitVec 32 × List Nat)) (rest : List Char)
    (hw : ∀ c ∈ w.head?, c ≠ ' ' ∧ c.isDigit = false ∧ c ≠ '\n')
    (hskip : ∀ m, w.isPrefixOf ("cpu".toList ++ m) = false) :
    (lines bufferSize (cpusText cpus ++ rest)).find? (fun b => w.isPrefixOf (cstr b)) =
      (lines bufferSize rest).find? fun b => w.isPrefixOf (cstr b) := by
  induction cpus with
  | nil => rfl
  | cons c cpus ih =>
    have hlabel : ∀ x ∈ "cpu".toList ++ decimal c.1.toNat, x ≠ '\n' ∧ x ≠ Char.ofNat 0 := by
      intro x hx
      rcases List.mem_append.mp hx with hx | hx
      · simp only [String.toList, List.mem_cons, List.not_mem_nil, or_false] at hx
        rcases hx with rfl | rfl | rfl <;> decide
      · have := decimal_isDigit _ x hx
        exact ⟨fun h => absurd this (by rw [h]; decide), fun h => absurd this (by rw [h]; decide)⟩
    have hlen : ("cpu".toList ++ decimal c.1.toNat).length < bufferSize - 1 := by
      have := decimal_length_le_of_lt c.1.toNat 10 (by norm_num) (lt_trans c.1.isLt (by norm_num))
      simp only [List.length_append, bufferSize]
      simp only [String.toList, List.length_cons, List.length_nil] at this ⊢
      omega
    rw [cpusText, List.flatMap_cons, List.append_assoc, List.append_assoc, List.singleton_append,
      find?_lines_labeledLine w _ c.2 _ hlabel hlen hw fun m => by rw [List.append_assoc]; exact hskip _]
    exact ih

theorem findLabeled_after_intr (t : ProcStat) (w : String)
    (hw : ∀ c ∈ w.toList.head?, c ≠ ' ' ∧ c.isDigit = false ∧ c ≠ '\n')
    (h0 : w.toList.isPrefixOf (cstr (cpuLine t.cpu t.guest t.guestNice ++ ['\n'])) = false)
    (hcpu : ∀ m, w.toList.isPrefixOf ("cpu".toList ++ m) = false)
    (hintr : ∀ m, w.toList.isPrefixOf ("intr".toList ++ m) = false) :
    findLabeled w t.text = (lines bufferSize (labeledLine "ctxt".toList [t.ctxt.toNat] ++
      '\n' :: (labeledLine "btime".toList [t.btime] ++ '\n' :: (labeledLine "processes".toList
      [t.processes] ++ '\n' :: (labeledLine "procs_running".toList [t.procsRunning.toNat] ++
      '\n' :: (labeledLine "procs_blocked".toList [t.procsBlocked] ++ '\n' ::
      (labeledLine "softirq".toList t.softirq ++ ['\n']))))))).find?
        fun b => w.toList.isPrefixOf (cstr b) := by
  rw [findLabeled, ProcStat.text, lines_line _ _ _ (cpuLine_not_mem _ _ _ _ (by decide) (by decide))
    (by have := cpuLine_length_le t.cpu t.guest t.guestNice; unfold bufferSize; omega),
    List.find?_cons, h0]
  simp only [Bool.false_eq_true, ↓reduceIte]
  rw [find?_lines_cpusText _ _ _ hw hcpu,
    find?_lines_labeledLine _ "intr".toList _ _ (by decide) (by decide) hw hintr]

theorem findLabeled_ctxt (t : ProcStat) :
    findLabeled "ctxt" t.text = some (labeledLine "ctxt".toList [t.ctxt.toNat] ++ ['\n']) := by
  rw [findLabeled_after_intr t "ctxt" (by decide) rfl (fun _ => rfl) (fun _ => rfl),
    find?_lines_labeledLine_self _ _ _ (by decide)
      (by have := decimal_toNat_length_le t.ctxt
          simp only [bufferSize, String.toList, List.length_cons, List.length_nil]; omega)]

theorem findLabeled_procsRunning (t : ProcStat) :
    findLabeled "procs_running" t.text =
      some (labeledLine "procs_running".toList [t.procsRunning.toNat] ++ ['\n']) := by
  have hw : ∀ c ∈ "procs_running".toList.head?, c ≠ ' ' ∧ c.isDigit = false ∧ c ≠ '\n' := by
    decide
  rw [findLabeled_after_intr t "procs_running" hw rfl (fun _ => rfl) (fun _ => rfl),
    find?_lines_labeledLine _ "ctxt".toList _ _ (by decide) (by decide) hw fun _ => rfl,
    find?_lines_labeledLine _ "btime".toList _ _ (by decide) (by decide) hw fun _ => rfl,
    find?_lines_labeledLine _ "processes".toList _ _ (by decide) (by decide) hw fun _ => rfl,
    find?_lines_labeledLine_self _ _ _ (by decide)
      (by have := decimal_length_le_of_lt t.procsRunning.toNat 10 (by norm_num)
            (lt_trans t.procsRunning.isLt (by norm_num))
          simp only [bufferSize, String.toList, List.length_cons, List.length_nil]; omega)]

theorem sscanf_labeledLine (w : List Char) (n : Nat) (k : Conv) (v : Value) (h : Reads k (decimal n) v)
    (hw : ∀ c ∈ w, c ≠ Char.ofNat 0) :
    sscanf (cstr (labeledLine w [n] ++ ['\n'])) (w.map .lit ++ [.space, .conv k]) = [v] := by
  rw [labeledLine, List.flatMap_cons, List.flatMap_nil, List.append_nil, List.append_assoc,
    cstr_append_of_nul_not_mem _ _ hw, sscanf_lits, if_pos (List.prefix_append _ _), List.drop_left,
    cstr_eq_self _ (fun c hc e => by
      subst e
      simp only [List.cons_append, List.mem_cons, List.mem_append, List.mem_singleton] at hc
      rcases hc with h | h | h
      · exact absurd h (by decide)
      · exact absurd (decimal_isDigit n _ h) (by decide)
      · exact absurd h (by decide)),
    List.cons_append, sscanf_space_cons, sscanf_space_of_head _ _ (h.head_append _),
    sscanf_reads_last h _ fun c hc => by
      rw [List.head?_cons, Option.mem_def, Option.some.injEq] at hc
      exact hc ▸ rfl]

theorem getContextSwitches_procStat (t : ProcStat) : getContextSwitches (some t.text) = t.ctxt.toInt := by
  have hfmt : format "ctxt %llu".toList = "ctxt".toList.map .lit ++ [.space, .conv .llu] := by decide
  simp only [getContextSwitches, findLabeled_ctxt, hfmt,
    sscanf_labeledLine "ctxt".toList _ _ _ (reads_llu_decimal t.ctxt) (by decide)]

theorem getRunningProcesses_procStat (t : ProcStat) :
    getRunningProcesses (some t.text) =
      if t.procsRunning.toInt = 0 then -1 else t.procsRunning.toInt := by
  have hfmt : format "procs_running %d".toList =
      "procs_running".toList.map .lit ++ [.space, .conv .d] := by decide
  simp only [getRunningProcesses, findLabeled_procsRunning, hfmt,
    sscanf_labeledLine "procs_running".toList _ _ _ (reads_d_toInt t.procsRunning.toNat) (by decide),
    toInt_toNat]

/-- On every /proc/stat in the kernel's format, whatever its length, the three readers return
the aggregate counters, `ctxt` cast to `long long`, and `procs_running` read as an `int` (or `-1`
when it is 0). -/
theorem procStat_readers (t : ProcStat) :
    readCpuSample (some t.text) = some t.cpu ∧ getContextSwitches (some t.text) = t.ctxt.toInt ∧
      getRunningProcesses (some t.text) =
        if t.procsRunning.toInt = 0 then -1 else t.procsRunning.toInt :=
  ⟨readCpuSample_cpuLine _ _ _ _, getContextSwitches_procStat t, getRunningProcesses_procStat t⟩

end SistemaMonitoreo.Stat
