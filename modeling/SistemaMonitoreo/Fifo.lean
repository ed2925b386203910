import SistemaMonitoreo.Scanf

namespace SistemaMonitoreo.Fifo

open LibC Scanf

/-- A `MemoryMetrics` record without `policy_name`, which no function reads or writes.
`float` fields are exact rationals like the doubles they are assigned from. -/
structure MemoryMetrics where
  iterations : Int
  timeTaken : ℚ
  totalAllocated : BitVec 64
  freedBlocks : Int
  freeBlocks : Int
  freeSize : BitVec 64
  avgFragmentation : ℚ
  externalFragmentation : ℚ
  deriving DecidableEq

/-- The zero-initialised globals `First_Fit_Metrics`, `Best_Fit_Metrics`, `Worst_Fit_Metrics`. -/
def MemoryMetrics.zero : MemoryMetrics := ⟨0, 0, 0, 0, 0, 0, 0, 0⟩

inductive Policy
  | firstFit
  | bestFit
  | worstFit
  deriving DecidableEq, Repr

/-- The locals of `read_memory_metrics` that `sscanf` fills. Before the call they hold
indeterminate values, which the model takes as a parameter. -/
structure RecordLocals where
  policyName : List Char
  iterations : Int
  timeTaken : ℚ
  totalAllocated : BitVec 64
  freedBlocks : Int
  freeBlocks : Int
  freeSize : BitVec 64
  avgFragmentation : ℚ
  externalFragmentation : ℚ

/-- `sscanf` stores its `k`-th value through its `k`-th pointer and leaves the rest alone. -/
def RecordLocals.store (l : RecordLocals) (vs : List Value) : RecordLocals where
  policyName := (vs[0]?.bind Value.str?).getD l.policyName
  iterations := (vs[1]?.bind Value.int?).getD l.iterations
  timeTaken := (vs[2]?.bind Value.dbl?).getD l.timeTaken
  totalAllocated := (vs[3]?.bind Value.u64?).getD l.totalAllocated
  freedBlocks := (vs[4]?.bind Value.int?).getD l.freedBlocks
  freeBlocks := (vs[5]?.bind Value.int?).getD l.freeBlocks
  freeSize := (vs[6]?.bind Value.u64?).getD l.freeSize
  avgFragmentation := (vs[7]?.bind Value.dbl?).getD l.avgFragmentation
  externalFragmentation := (vs[8]?.bind Value.dbl?).getD l.externalFragmentation

def RecordLocals.metrics (l : RecordLocals) : MemoryMetrics :=
  ⟨l.iterations, l.timeTaken, l.totalAllocated, l.freedBlocks, l.freeBlocks, l.freeSize,
    l.avgFragmentation, l.externalFragmentation⟩

/-- The slot that the `strcmp` chain selects for a policy name. -/
def policyOf (name : List Char) : Option Policy :=
  if name = "First_Fit".toList then some .firstFit
  else if name = "Best_Fit".toList then some .bestFit
  else if name = "Worst_Fit".toList then some .worstFit
  else none

/-- What the child's writes reach the reader as: the results of successive
`read (fd, buffer, sizeof (buffer) - 1)` calls before end of stream, 1 to 255 bytes each. -/
structure Delivery where
  chunks : List (List Char)
  chunk_ne_nil : ∀ c ∈ chunks, c ≠ []
  chunk_length : ∀ c ∈ chunks, c.length ≤ 255

/-- `bytes_read = read (fd, buffer, ...)` then `buffer[bytes_read] = '\0'`: every chunk is
written at the start of the same buffer. -/
def readInto (buffer chunk : List Char) : List Char :=
  chunk ++ Char.ofNat 0 :: buffer.drop (chunk.length + 1)

/-- The condition of `if (!sscanf (...) == 9)`: `!` binds tighter than `==`. -/
def malformedGuard (n : Nat) : Bool := (if n = 0 then 1 else 0) == 9

def policyNameSize : Nat := 20

/-- What follows the read loop of `read_memory_metrics`: `sscanf` of the buffer, then the
`strcmp` chain. A first word that does not fit `policy_name` with its terminator overflows it.
The malformed-record test only prints, so the dispatch runs whatever `sscanf` stored. -/
def scanRecord (slots : Policy → MemoryMetrics) (locals : RecordLocals) (buffer : List Char) :
    Except Fault (Policy → MemoryMetrics) :=
  let values := sscanf buffer (format "%s %d %lf %zu %d %d %zu %lf %lf".toList)
  if (values[0]?.bind Value.str?).any (policyNameSize ≤ ·.length) then throw .sscanfOverflow else
  let l := locals.store values
  pure (match policyOf l.policyName with
    | some p => Function.update slots p l.metrics
    | none => slots)

/-- `read_memory_metrics` on the three slots. `stale` is the uninitialised `buffer`, `locals`
the uninitialised locals; a FIFO that cannot be opened is `none`. -/
def readMemoryMetrics (slots : Policy → MemoryMetrics) (fifo : Option Delivery)
    (stale : List Char) (locals : RecordLocals) : Except Fault (Policy → MemoryMetrics) :=
  match fifo with
  | none => pure slots
  | some d => scanRecord slots locals (cstr (d.chunks.foldl readInto stale))

theorem malformedGuard_false (n : Nat) : malformedGuard n = false := by
  unfold malformedGuard
  split <;> rfl

theorem cstr_append_nul (chunk rest : List Char) : cstr (chunk ++ Char.ofNat 0 :: rest) = cstr chunk := by
  induction chunk with
  | nil => simp [cstr]
  | cons c chunk ih =>
    by_cases hc : c = Char.ofNat 0
    · simp [cstr, hc]
    · simpa [cstr, hc] using ih

theorem cstr_foldl_readInto (stale : List Char) (chunks : List (List Char)) (h : chunks ≠ []) :
    cstr (chunks.foldl readInto stale) = cstr (chunks.getLast h) := by
  conv_lhs => rw [← List.dropLast_append_getLast h, List.foldl_append]
  exact cstr_append_nul _ _

theorem readMemoryMetrics_some (slots : Policy → MemoryMetrics) (d : Delivery) (stale : List Char)
    (locals : RecordLocals) (h : d.chunks ≠ []) :
    readMemoryMetrics slots (some d) stale locals = scanRecord slots locals (cstr (d.chunks.getLast h)) := by
  rw [readMemoryMetrics, cstr_foldl_readInto _ _ h]

theorem scanRecord_fits (slots : Policy → MemoryMetrics) (locals : RecordLocals) (buffer : List Char)
    (h : ((sscanf buffer (format "%s %d %lf %zu %d %d %zu %lf %lf".toList))[0]?.bind Value.str?).any
      (policyNameSize ≤ ·.length) = false) :
    scanRecord slots locals buffer =
      let l := locals.store (sscanf buffer (format "%s %d %lf %zu %d %d %zu %lf %lf".toList))
      .ok (match policyOf l.policyName with
        | some p => Function.update slots p l.metrics
        | none => slots) := by
  rw [scanRecord, if_neg (by rw [h]; exact Bool.false_ne_true)]
  rfl

theorem readMemoryMetrics_frame (slots : Policy → MemoryMetrics) (fifo : Option Delivery)
    (stale : List Char) (locals : RecordLocals) :
    ∃ p, ∀ slots', readMemoryMetrics slots fifo stale locals = .ok slots' →
      ∀ q, q ≠ p → slots' q = slots q := by
  cases fifo with
  | none => exact ⟨.firstFit, fun _ h _ _ => by cases h; rfl⟩
  | some d =>
    simp only [readMemoryMetrics, scanRecord]
    split
    · exact ⟨.firstFit, fun _ h => nomatch h⟩
    · generalize locals.store _ = l
      cases policyOf l.policyName with
      | none => exact ⟨.firstFit, fun _ h _ _ => by cases h; rfl⟩
      | some p => exact ⟨p, fun _ h q hq => by cases h; exact Function.update_noteq hq _ _⟩

/-- What the earlier reads delivered and what the buffer held before are lost: two deliveries
whose last reads agree fill the slots alike. -/
theorem readMemoryMetrics_last_read (slots : Policy → MemoryMetrics) (d d' : Delivery)
    (h : d.chunks ≠ []) (h' : d'.chunks ≠ []) (hlast : d.chunks.getLast h = d'.chunks.getLast h')
    (stale stale' : List Char) (locals : RecordLocals) :
    readMemoryMetrics slots (some d) stale locals = readMemoryMetrics slots (some d') stale' locals := by
  rw [readMemoryMetrics_some slots d stale locals h, readMemoryMetrics_some slots d' stale' locals h',
    hlast]

theorem readMemoryMetrics_last_read_sample :
    readMemoryMetrics (fun _ => .zero)
        (some ⟨["Best_Fit 3".toList, "First_Fit 1".toList], by decide, by decide⟩) "stale".toList
        ⟨[], 0, 0, 0, 0, 0, 0, 0, 0⟩ =
      readMemoryMetrics (fun _ => .zero) (some ⟨["First_Fit 1".toList], by decide, by decide⟩) []
        ⟨[], 0, 0, 0, 0, 0, 0, 0, 0⟩ :=
  readMemoryMetrics_last_read _ _ _ (by decide) (by decide) rfl "stale".toList [] _

def wholeRecord : Delivery :=
  ⟨["First_Fit 10 0.5 1024 2 3 512 1.5 2.5".toList], by decide, by decide⟩

def splitRecord : Delivery :=
  ⟨["First_Fit 10 0.5 ".toList, "1024 2 3 512 1.5 2.5".toList], by decide, by decide⟩

/-- A record that reaches the reader in one read updates its slot; the same record in two reads
is parsed from its second half, whose first word names no policy, and no slot changes. -/
theorem readMemoryMetrics_split_record (slots : Policy → MemoryMetrics) (stale : List Char)
    (locals : RecordLocals) :
    (∃ slots', readMemoryMetrics slots (some wholeRecord) stale locals = .ok slots' ∧
      (slots' .firstFit).iterations = 10 ∧ (slots' .firstFit).totalAllocated = 1024) ∧
    readMemoryMetrics slots (some splitRecord) stale locals = .ok slots := by
  have hw : (sscanf (cstr "First_Fit 10 0.5 1024 2 3 512 1.5 2.5".toList)
      (format "%s %d %lf %zu %d %d %zu %lf %lf".toList))[0]? = some (.str "First_Fit".toList) ∧
      (sscanf (cstr "First_Fit 10 0.5 1024 2 3 512 1.5 2.5".toList)
      (format "%s %d %lf %zu %d %d %zu %lf %lf".toList))[1]? = some (.int 10) ∧
      (sscanf (cstr "First_Fit 10 0.5 1024 2 3 512 1.5 2.5".toList)
      (format "%s %d %lf %zu %d %d %zu %lf %lf".toList))[3]? = some (.u64 1024) := by
    decide
  have hs : (sscanf (cstr "1024 2 3 512 1.5 2.5".toList)
      (format "%s %d %lf %zu %d %d %zu %lf %lf".toList))[0]? = some (.str "1024".toList) := by
    decide
  have hp : policyOf "First_Fit".toList = some .firstFit ∧ policyOf "1024".toList = none := by
    decide
  rw [readMemoryMetrics_some _ wholeRecord _ _ (by simp [wholeRecord]),
    readMemoryMetrics_some _ splitRecord _ _ (by simp [splitRecord])]
  simp only [wholeRecord, splitRecord, List.getLast_singleton, List.getLast_cons_cons]
  rw [scanRecord_fits _ _ _ (by rw [hw.1]; decide), scanRecord_fits _ _ _ (by rw [hs]; decide)]
  simp only [RecordLocals.store, hw.1, hw.2.1, hw.2.2, hs, Option.some_bind, Value.str?, Value.int?,
    Value.u64?, Option.getD_some, hp.1, hp.2, Function.update_same, RecordLocals.metrics]
  exact ⟨⟨_, rfl, rfl, rfl⟩, trivial⟩

def truncatedRecord : Delivery := ⟨["First_Fit 10".toList], by decide, by decide⟩

/-- A record of two fields passes the malformed-record test and updates its slot: the slot
takes the iteration count and, in every other field, whatever the local held before. -/
theorem readMemoryMetrics_truncated_record (slots : Policy → MemoryMetrics) (stale : List Char)
    (locals : RecordLocals) :
    readMemoryMetrics slots (some truncatedRecord) stale locals =
      .ok (Function.update slots .firstFit
        ⟨10, locals.timeTaken, locals.totalAllocated, locals.freedBlocks, locals.freeBlocks,
          locals.freeSize, locals.avgFragmentation, locals.externalFragmentation⟩) := by
  have hv : sscanf (cstr "First_Fit 10".toList) (format "%s %d %lf %zu %d %d %zu %lf %lf".toList) =
      [.str "First_Fit".toList, .int 10] := by
    decide
  have hp : policyOf "First_Fit".toList = some .firstFit := by decide
  rw [readMemoryMetrics_some _ truncatedRecord _ _ (by simp [truncatedRecord])]
  simp only [truncatedRecord, List.getLast_singleton]
  rw [scanRecord_fits _ _ _ (by rw [hv]; decide)]
  simp only [hv, RecordLocals.store, RecordLocals.metrics,
    List.getElem?_cons_zero, List.getElem?_cons_succ, List.getElem?_nil, Option.some_bind,
    Option.none_bind, Value.str?, Value.int?, Option.getD_some, Option.getD_none, hp]

/-- A record as the benchmark writes it to the FIFO: the policy name and the eight fields in
the order of the format, separated by single spaces. -/
structure Record where
  name : List Char
  iterations : Nat
  timeTaken : Fixed
  totalAllocated : Nat
  freedBlocks : Nat
  freeBlocks : Nat
  freeSize : Nat
  avgFragmentation : Fixed
  externalFragmentation : Fixed
  name_ne_nil : name ≠ []
  name_word : ∀ c ∈ name, isspace c = false ∧ c ≠ Char.ofNat 0
  iterations_lt : iterations < 2 ^ 31
  totalAllocated_lt : totalAllocated < 2 ^ 64
  freedBlocks_lt : freedBlocks < 2 ^ 31
  freeBlocks_lt : freeBlocks < 2 ^ 31
  freeSize_lt : freeSize < 2 ^ 64

def Record.text (r : Record) : List Char :=
  r.name ++ ' ' :: decimal r.iterations ++ ' ' :: r.timeTaken.text ++ ' ' ::
    decimal r.totalAllocated ++ ' ' :: decimal r.freedBlocks ++ ' ' :: decimal r.freeBlocks ++
    ' ' :: decimal r.freeSize ++ ' ' :: r.avgFragmentation.text ++ ' ' ::
    r.externalFragmentation.text

/-- The slot a record fills, its `double` fields exact. -/
def Record.metrics (r : Record) : MemoryMetrics :=
  ⟨r.iterations, r.timeTaken.value, BitVec.ofNat 64 r.totalAllocated, r.freedBlocks,
    r.freeBlocks, BitVec.ofNat 64 r.freeSize, r.avgFragmentation.value,
    r.externalFragmentation.value⟩

theorem sscanf_record (r : Record) (suffix : List Char) (hs : ∀ c ∈ suffix.head?, isspace c = true) :
    sscanf (r.text ++ suffix) (format "%s %d %lf %zu %d %d %zu %lf %lf".toList) =
      [.str r.name, .int r.iterations, .dbl r.timeTaken.value,
        .u64 (BitVec.ofNat 64 r.totalAllocated), .int r.freedBlocks, .int r.freeBlocks,
        .u64 (BitVec.ofNat 64 r.freeSize), .dbl r.avgFragmentation.value,
        .dbl r.externalFragmentation.value] := by
  have hfmt : format "%s %d %lf %zu %d %d %zu %lf %lf".toList =
      [.conv .s, .space, .conv .d, .space, .conv .lf, .space, .conv .zu, .space, .conv .d, .space,
        .conv .d, .space, .conv .zu, .space, .conv .lf, .space, .conv .lf] := by
    decide
  have rn := reads_word r.name r.name_ne_nil fun c hc => (r.name_word c hc).1
  have ri := reads_d_decimal _ r.iterations_lt
  have rt := reads_lf_fixed r.timeTaken
  have ra := reads_zu_decimal _ r.totalAllocated_lt
  have rfb := reads_d_decimal _ r.freedBlocks_lt
  have rfr := reads_d_decimal _ r.freeBlocks_lt
  have rs := reads_zu_decimal _ r.freeSize_lt
  have rav := reads_lf_fixed r.avgFragmentation
  have rex := reads_lf_fixed r.externalFragmentation
  simp only [Record.text, List.append_assoc, List.cons_append, hfmt]
  rw [sscanf_reads_space rn _ (ri.head_append _), sscanf_reads_space ri _ (rt.head_append _),
    sscanf_reads_space rt _ (ra.head_append _), sscanf_reads_space ra _ (rfb.head_append _),
    sscanf_reads_space rfb _ (rfr.head_append _), sscanf_reads_space rfr _ (rs.head_append _),
    sscanf_reads_space rs _ (rav.head_append _), sscanf_reads_space rav _ (rex.head_append _),
    sscanf_reads_last rex _ hs]

theorem Record.nul_not_mem (r : Record) : ∀ c ∈ r.text, c ≠ Char.ofNat 0 := by
  have hdec : ∀ n, ∀ c ∈ decimal n, c ≠ Char.ofNat 0 := fun n c hc e =>
    absurd (decimal_isDigit n c hc) (by rw [e]; decide)
  have hfix : ∀ x : Fixed, ∀ c ∈ x.text, c ≠ Char.ofNat 0 := by
    intro x c hc
    simp only [Fixed.text, List.mem_append, List.mem_cons] at hc
    rcases hc with hc | rfl | hc
    · exact hdec _ c hc
    · decide
    · exact fun e => absurd (x.frac_digits c hc) (by rw [e]; decide)
  have hname : ∀ c ∈ r.name, c ≠ Char.ofNat 0 := fun c hc => (r.name_word c hc).2
  have hsp : ' ' ≠ Char.ofNat 0 := by decide
  simp only [Record.text, List.forall_mem_append, List.forall_mem_cons]
  exact ⟨⟨⟨⟨⟨⟨⟨⟨hname, hsp, hdec _⟩, hsp, hfix _⟩, hsp, hdec _⟩, hsp, hdec _⟩, hsp, hdec _⟩, hsp,
    hdec _⟩, hsp, hfix _⟩, hsp, hfix _⟩

theorem policyOf_length_lt (name : List Char) (p : Policy) (h : policyOf name = some p) :
    name.length < policyNameSize := by
  unfold policyOf at h
  split_ifs at h with h1 h2 h3 <;> subst_vars <;> decide

theorem readMemoryMetrics_record (slots : Policy → MemoryMetrics) (d : Delivery) (h : d.chunks ≠ [])
    (r : Record) (suffix : List Char) (hs : ∀ c ∈ suffix.head?, isspace c = true)
    (hlast : d.chunks.getLast h = r.text ++ suffix) (p : Policy) (hp : policyOf r.name = some p)
    (stale : List Char) (locals : RecordLocals) :
    readMemoryMetrics slots (some d) stale locals = .ok (Function.update slots p r.metrics) := by
  have hs' : ∀ c ∈ (cstr suffix).head?, isspace c = true := fun c hc => by
    rw [cstr, List.head?_takeWhile, Option.mem_filter_iff] at hc
    exact hs c hc.1
  have hfit : ¬ policyNameSize ≤ r.name.length := not_le.mpr (policyOf_length_lt r.name p hp)
  rw [readMemoryMetrics_some _ d _ _ h, hlast, cstr_append_of_nul_not_mem _ _ r.nul_not_mem,
    scanRecord_fits _ _ _ (by rw [sscanf_record r _ hs']; simp [Value.str?, hfit]), sscanf_record r _ hs']
  simp only [RecordLocals.store, List.getElem?_cons_zero, List.getElem?_cons_succ,
    Option.some_bind, Value.str?, Value.int?, Value.dbl?, Value.u64?, Option.getD_some, hp]
  rfl

example (slots : Policy → MemoryMetrics) (stale : List Char) (locals : RecordLocals) :
    readMemoryMetrics slots (some ⟨["First_Fit 7 0.5 4 2 3 5 1.5 2.5\n".toList], by decide,
      by decide⟩) stale locals =
      .ok (Function.update slots .firstFit ⟨7, 1 / 2, 4, 2, 3, 5, 3 / 2, 5 / 2⟩) := by
  let half (whole : Nat) : Fixed := ⟨whole, ['5'], by decide⟩
  let r : Record := ⟨"First_Fit".toList, 7, half 0, 4, 2, 3, 5, half 1, half 2,
    by decide, by decide, by norm_num, by norm_num, by norm_num, by norm_num, by norm_num⟩
  have hlast : ["First_Fit 7 0.5 4 2 3 5 1.5 2.5\n".toList].getLast (by decide) =
      r.text ++ ['\n'] := by
    simp only [r, half, Record.text, Fixed.text, decimal_of_lt, Nat.reduceLT, List.getLast_singleton]
    decide
  rw [readMemoryMetrics_record _ _ _ r ['\n'] (by decide) hlast .firstFit (by decide)]
  have h5 : '5'.toNat - '0'.toNat = 5 := rfl
  norm_num [r, half, Record.metrics, Fixed.value, digitsValue, h5]
  rfl

/-- `get_First_Fit`, `get_Best_Fit` and `get_Worst_Fit`: after the benchmark run that
`ejecutar_memory` starts, read the FIFO and copy the policy's slot out. The call returns 0. -/
def getFit (p : Policy) (slots : Policy → MemoryMetrics) (fifo : Option Delivery)
    (stale : List Char) (locals : RecordLocals) :
    Except Fault (Int × (Policy → MemoryMetrics) × MemoryMetrics) := do
  let slots ← readMemoryMetrics slots fifo stale locals
  pure (0, slots, slots p)

def getFirstFit := getFit .firstFit

def getBestFit := getFit .bestFit

def getWorstFit := getFit .worstFit

end SistemaMonitoreo.Fifo
