import SistemaMonitoreo.Scanf
import Mathlib.Tactic.Ring
import Mathlib.Algebra.Order.Field.Basic

namespace SistemaMonitoreo.Cpu

open LibC Scanf

/-- The eight counters of the aggregate line of /proc/stat, in the order `get_cpu_usage`
scans them. -/
structure CpuSample where
  user : BitVec 64
  nice : BitVec 64
  system : BitVec 64
  idle : BitVec 64
  iowait : BitVec 64
  irq : BitVec 64
  softirq : BitVec 64
  steal : BitVec 64
  deriving DecidableEq, Repr

/-- The statics `prev_user`, ..., `prev_steal` before the first call. -/
def CpuSample.zero : CpuSample := ⟨0, 0, 0, 0, 0, 0, 0, 0⟩

def parseCpuLine (buffer : List Char) : Option CpuSample :=
  match sscanf (cstr buffer) (format "cpu  %llu %llu %llu %llu %llu %llu %llu %llu".toList) with
  | [.u64 user, .u64 nice, .u64 system, .u64 idle, .u64 iowait, .u64 irq, .u64 softirq,
      .u64 steal] => some ⟨user, nice, system, idle, iowait, irq, softirq, steal⟩
  | _ => none

/-- The first line of /proc/stat, read into a buffer of `BUFFER_SIZE * 4` bytes and scanned;
`none` when the file cannot be opened, is empty, or fewer than eight counters are read. -/
def readCpuSample (stat : Option (List Char)) : Option CpuSample := do
  let text ← stat
  let (buffer, _) ← fgets (bufferSize * 4) text
  parseCpuLine buffer

def idleTotal (s : CpuSample) : BitVec 64 := s.idle + s.iowait

def nonIdle (s : CpuSample) : BitVec 64 := s.user + s.nice + s.system + s.irq + s.softirq + s.steal

def total (s : CpuSample) : BitVec 64 := idleTotal s + nonIdle s

def totald (prev cur : CpuSample) : BitVec 64 := total cur - total prev

def idled (prev cur : CpuSample) : BitVec 64 := idleTotal cur - idleTotal prev

/-- `get_cpu_usage` with its statics passed explicitly: the value returned (`-1.0` on error)
and the stored sample after the call. Doubles are exact rationals. -/
def getCpuUsage (prev : CpuSample) (stat : Option (List Char)) : ℚ × CpuSample :=
  match readCpuSample stat with
  | none => (-1, prev)
  | some cur =>
    if totald prev cur = 0 then (-1, prev)
    else (((totald prev cur - idled prev cur).toNat : ℚ) / (totald prev cur).toNat * 100, cur)

section Spec

variable {prev cur : CpuSample} {stat : Option (List Char)}

theorem getCpuUsage_none (h : readCpuSample stat = none) : getCpuUsage prev stat = (-1, prev) := by
  simp [getCpuUsage, h]

theorem getCpuUsage_degenerate (h : readCpuSample stat = some cur) (h0 : totald prev cur = 0) :
    getCpuUsage prev stat = (-1, prev) := by
  simp [getCpuUsage, h, h0]

theorem getCpuUsage_some (h : readCpuSample stat = some cur) (h0 : totald prev cur ≠ 0) :
    getCpuUsage prev stat =
      (((totald prev cur - idled prev cur).toNat : ℚ) / (totald prev cur).toNat * 100, cur) := by
  simp only [getCpuUsage, h, h0, ↓reduceIte]

end Spec

/-- The aggregate line of /proc/stat as the kernel prints it, before its newline: `cpu`, two
spaces, the eight counters `get_cpu_usage` reads, then guest and guest_nice, separated by single
spaces. -/
def cpuLine (s : CpuSample) (guest guestNice : BitVec 64) : List Char :=
  'c' :: 'p' :: 'u' :: ' ' :: ' ' :: (decimal s.user.toNat ++ ' ' :: decimal s.nice.toNat ++
    ' ' :: decimal s.system.toNat ++ ' ' :: decimal s.idle.toNat ++ ' ' ::
    decimal s.iowait.toNat ++ ' ' :: decimal s.irq.toNat ++ ' ' :: decimal s.softirq.toNat ++
    ' ' :: decimal s.steal.toNat ++ ' ' :: decimal guest.toNat ++ ' ' :: decimal guestNice.toNat)

theorem cpuLine_not_mem (s : CpuSample) (guest guestNice : BitVec 64) (x : Char)
    (hx : x.isDigit = false) (hc : x ∉ "cpu ".toList) : x ∉ cpuLine s guest guestNice := by
  have hdig : ∀ n, (x ∈ decimal n) = False := fun n => eq_false fun h =>
    absurd (decimal_isDigit n x h) (by simp [hx])
  simp only [String.toList, List.mem_cons, not_or] at hc
  simp only [cpuLine, List.mem_cons, List.mem_append, hdig, hc.1, hc.2.1, hc.2.2.1, hc.2.2.2.1,
    false_or, or_false, not_false_eq_true]

theorem cpuLine_length_le (s : CpuSample) (guest guestNice : BitVec 64) :
    (cpuLine s guest guestNice).length ≤ 214 := by
  have h := decimal_toNat_length_le
  have := h s.user; have := h s.nice; have := h s.system; have := h s.idle; have := h s.iowait
  have := h s.irq; have := h s.softirq; have := h s.steal; have := h guest; have := h guestNice
  simp only [cpuLine, List.length_cons, List.length_append]
  omega

theorem parseCpuLine_cpuLine (s : CpuSample) (guest guestNice : BitVec 64) :
    parseCpuLine (cpuLine s guest guestNice ++ ['\n']) = some s := by
  have hfmt : format "cpu  %llu %llu %llu %llu %llu %llu %llu %llu".toList =
      [.lit 'c', .lit 'p', .lit 'u', .space, .space, .conv .llu, .space, .conv .llu, .space,
        .conv .llu, .space, .conv .llu, .space, .conv .llu, .space, .conv .llu, .space,
        .conv .llu, .space, .conv .llu] := by
    decide
  have hnul : ∀ c ∈ cpuLine s guest guestNice ++ ['\n'], c ≠ Char.ofNat 0 := by
    intro c hc e
    subst e
    rw [List.mem_append, List.mem_singleton] at hc
    exact hc.elim (cpuLine_not_mem s guest guestNice _ (by decide) (by decide)) (by decide)
  have r := reads_llu_decimal
  have hscan : sscanf (cpuLine s guest guestNice ++ ['\n'])
      (format "cpu  %llu %llu %llu %llu %llu %llu %llu %llu".toList) =
      [.u64 s.user, .u64 s.nice, .u64 s.system, .u64 s.idle, .u64 s.iowait, .u64 s.irq,
        .u64 s.softirq, .u64 s.steal] := by
    simp only [cpuLine, List.append_assoc, List.cons_append, hfmt]
    rw [sscanf_lit, sscanf_lit, sscanf_lit, sscanf_space_cons, sscanf_space_cons,
      sscanf_space_of_head _ _ ((r _).head_append _), sscanf_space_of_head _ _ ((r _).head_append _),
      sscanf_reads_space (r _) _ ((r _).head_append _), sscanf_reads_space (r _) _ ((r _).head_append _),
      sscanf_reads_space (r _) _ ((r _).head_append _), sscanf_reads_space (r _) _ ((r _).head_append _),
      sscanf_reads_space (r _) _ ((r _).head_append _), sscanf_reads_space (r _) _ ((r _).head_append _),
      sscanf_reads_space (r _) _ ((r _).head_append _), sscanf_reads_last (r _) _ fun c hc => by
        rw [List.head?_cons, Option.mem_def, Option.some.injEq] at hc
        exact hc ▸ rfl]
  rw [parseCpuLine, cstr_eq_self _ hnul, hscan]

theorem readCpuSample_cpuLine (s : CpuSample) (guest guestNice : BitVec 64) (rest : List Char) :
    readCpuSample (some (cpuLine s guest guestNice ++ '\n' :: rest)) = some s := by
  have hlen : (cpuLine s guest guestNice).length + 2 ≤ bufferSize * 4 := by
    have := cpuLine_length_le s guest guestNice
    unfold bufferSize
    omega
  simp only [readCpuSample, Option.bind_eq_bind, Option.some_bind,
    fgets_line _ _ rest (cpuLine_not_mem s guest guestNice _ (by decide) (by decide)) hlen]
  exact parseCpuLine_cpuLine s guest guestNice

def cpuRun (prev : CpuSample) : List (Option (List Char)) → List ℚ × CpuSample
  | [] => ([], prev)
  | stat :: stats =>
    let (r, s) := getCpuUsage prev stat
    let (rs, s') := cpuRun s stats
    (r :: rs, s')

def CpuSample.le (p c : CpuSample) : Prop :=
  p.user ≤ c.user ∧ p.nice ≤ c.nice ∧ p.system ≤ c.system ∧ p.idle ≤ c.idle ∧
    p.iowait ≤ c.iowait ∧ p.irq ≤ c.irq ∧ p.softirq ≤ c.softirq ∧ p.steal ≤ c.steal

instance : DecidableRel CpuSample.le := fun p c => by unfold CpuSample.le; infer_instance

def tickDelta (p c : CpuSample) : Nat :=
  (c.user.toNat - p.user.toNat) + (c.nice.toNat - p.nice.toNat) +
    (c.system.toNat - p.system.toNat) + (c.idle.toNat - p.idle.toNat) +
    (c.iowait.toNat - p.iowait.toNat) + (c.irq.toNat - p.irq.toNat) +
    (c.softirq.toNat - p.softirq.toNat) + (c.steal.toNat - p.steal.toNat)

def idleDelta (p c : CpuSample) : Nat :=
  (c.idle.toNat - p.idle.toNat) + (c.iowait.toNat - p.iowait.toNat)

def deltas (p c : CpuSample) : List (BitVec 64) :=
  [c.user - p.user, c.nice - p.nice, c.system - p.system, c.idle - p.idle,
    c.iowait - p.iowait, c.irq - p.irq, c.softirq - p.softirq, c.steal - p.steal]

theorem totald_eq_sum (p c : CpuSample) : totald p c = (deltas p c).sum := by
  simp only [totald, total, idleTotal, nonIdle, deltas, List.sum_cons, List.sum_nil]
  ring

theorem idled_eq (p c : CpuSample) : idled p c = (c.idle - p.idle) + (c.iowait - p.iowait) := by
  simp only [idled, idleTotal]
  ring

theorem toNat_totald (p c : CpuSample) (hle : p.le c) (hfit : tickDelta p c < 2 ^ 64) :
    (totald p c).toNat = tickDelta p c := by
  obtain ⟨h1, h2, h3, h4, h5, h6, h7, h8⟩ := hle
  have hmap : (deltas p c).map BitVec.toNat =
      [c.user.toNat - p.user.toNat, c.nice.toNat - p.nice.toNat, c.system.toNat - p.system.toNat,
        c.idle.toNat - p.idle.toNat, c.iowait.toNat - p.iowait.toNat, c.irq.toNat - p.irq.toNat,
        c.softirq.toNat - p.softirq.toNat, c.steal.toNat - p.steal.toNat] := by
    simp only [deltas, List.map_cons, List.map_nil, BitVec.toNat_sub_of_le h1,
      BitVec.toNat_sub_of_le h2, BitVec.toNat_sub_of_le h3, BitVec.toNat_sub_of_le h4,
      BitVec.toNat_sub_of_le h5, BitVec.toNat_sub_of_le h6, BitVec.toNat_sub_of_le h7,
      BitVec.toNat_sub_of_le h8]
  have hsum : ((deltas p c).map BitVec.toNat).sum = tickDelta p c := by
    simp only [hmap, List.sum_cons, List.sum_nil, tickDelta]
    omega
  rw [totald_eq_sum, toNat_sum_of_lt _ (hsum ▸ hfit), hsum]

theorem toNat_idled (p c : CpuSample) (hle : p.le c) (hfit : tickDelta p c < 2 ^ 64) :
    (idled p c).toNat = idleDelta p c := by
  obtain ⟨-, -, -, h4, h5, -, -, -⟩ := hle
  have hlt : idleDelta p c < 2 ^ 64 := by unfold idleDelta; unfold tickDelta at hfit; omega
  rw [idled_eq, BitVec.toNat_add, BitVec.toNat_sub_of_le h4, BitVec.toNat_sub_of_le h5]
  exact Nat.mod_eq_of_lt hlt

/-- With no counter going backwards and a positive advance that fits in 64 bits, the wrapping
arithmetic gives the exact deltas, and the result is the exact busy ratio, in `[0, 100]`. -/
theorem getCpuUsage_of_le (p c : CpuSample) (stat : Option (List Char))
    (hread : readCpuSample stat = some c) (hle : p.le c)
    (hpos : 0 < tickDelta p c) (hfit : tickDelta p c < 2 ^ 64) :
    (totald p c).toNat = tickDelta p c ∧ (idled p c).toNat = idleDelta p c ∧
      getCpuUsage p stat =
        (100 * ((tickDelta p c - idleDelta p c : Nat) : ℚ) / tickDelta p c, c) ∧
      0 ≤ (getCpuUsage p stat).1 ∧ (getCpuUsage p stat).1 ≤ 100 := by
  have ht := toNat_totald p c hle hfit
  have hi := toNat_idled p c hle hfit
  have hid : idleDelta p c ≤ tickDelta p c := by unfold idleDelta tickDelta; omega
  have hne : totald p c ≠ 0 := fun h => by simp [h] at ht; omega
  have hsub : (totald p c - idled p c).toNat = tickDelta p c - idleDelta p c := by
    rw [BitVec.toNat_sub_of_le (by rw [BitVec.le_def, ht, hi]; exact hid), ht, hi]
  have hval : getCpuUsage p stat =
      (100 * ((tickDelta p c - idleDelta p c : Nat) : ℚ) / tickDelta p c, c) := by
    rw [getCpuUsage_some hread hne, hsub, ht, mul_comm, mul_div_assoc]
  have hD : (0 : ℚ) < tickDelta p c := by exact_mod_cast hpos
  have hle' : ((tickDelta p c - idleDelta p c : Nat) : ℚ) ≤ tickDelta p c := by
    exact_mod_cast Nat.sub_le _ _
  refine ⟨ht, hi, hval, ?_, ?_⟩ <;> simp only [hval]
  · positivity
  · rw [mul_div_assoc]
    exact mul_le_of_le_one_right (by norm_num) ((div_le_one hD).mpr hle')

def wrapBaseline : CpuSample := ⟨2 ^ 63, 2 ^ 63, 0, 0, 0, 0, 0, 0⟩

def wrapSample : CpuSample := ⟨2 ^ 63 + 1, 2 ^ 63, 0, 5, 0, 0, 0, 0⟩

theorem getCpuUsage_of_le_samples :
    getCpuUsage .zero (some "cpu  1 2 3 4 5 6 7 8\n".toList) =
        (100 * ((36 - 9 : Nat) : ℚ) / 36, ⟨1, 2, 3, 4, 5, 6, 7, 8⟩) ∧
      total wrapBaseline = 0 ∧ (total wrapSample).toNat = 6 ∧
      getCpuUsage wrapBaseline (some "cpu  9223372036854775809 9223372036854775808 0 5 0 0 0 0\n".toList) =
        (100 * ((6 - 5 : Nat) : ℚ) / 6, wrapSample) := by
  have hr : readCpuSample (some "cpu  1 2 3 4 5 6 7 8\n".toList) = some ⟨1, 2, 3, 4, 5, 6, 7, 8⟩ := by
    decide
  have ht : tickDelta .zero ⟨1, 2, 3, 4, 5, 6, 7, 8⟩ = 36 := by decide
  have hi : idleDelta .zero ⟨1, 2, 3, 4, 5, 6, 7, 8⟩ = 9 := by decide
  have hr' : readCpuSample
      (some "cpu  9223372036854775809 9223372036854775808 0 5 0 0 0 0\n".toList) = some wrapSample := by
    decide
  have ht' : tickDelta wrapBaseline wrapSample = 6 := by decide
  have hi' : idleDelta wrapBaseline wrapSample = 5 := by decide
  have h := (getCpuUsage_of_le .zero _ _ hr (by decide) (by decide) (by decide)).2.2.1
  have h' := (getCpuUsage_of_le wrapBaseline _ _ hr' (by decide) (by decide) (by decide)).2.2.1
  rw [ht, hi] at h
  rw [ht', hi'] at h'
  exact ⟨h, by decide, by decide, h'⟩

/-- iowait going back by 10 ticks while user time advances by 20: the second call divides a
busy delta of 20 ticks by a total delta of 10. -/
theorem cpuRun_iowait_decrease :
    (cpuRun .zero [some "cpu  0 0 0 100 50 0 0 0\n".toList,
      some "cpu  20 0 0 100 40 0 0 0\n".toList]).1 = [0, 200] := by
  have h1 : readCpuSample (some "cpu  0 0 0 100 50 0 0 0\n".toList) =
      some ⟨0, 0, 0, 100, 50, 0, 0, 0⟩ := by decide
  have h2 : readCpuSample (some "cpu  20 0 0 100 40 0 0 0\n".toList) =
      some ⟨20, 0, 0, 100, 40, 0, 0, 0⟩ := by decide
  have e1 := @getCpuUsage_some .zero _ _ h1 (by decide)
  have e2 := @getCpuUsage_some ⟨0, 0, 0, 100, 50, 0, 0, 0⟩ _ _ h2 (by decide)
  have n1 : (totald .zero ⟨0, 0, 0, 100, 50, 0, 0, 0⟩ - idled .zero ⟨0, 0, 0, 100, 50, 0, 0, 0⟩).toNat = 0 ∧
      (totald .zero ⟨0, 0, 0, 100, 50, 0, 0, 0⟩).toNat = 150 := by decide
  have n2 : (totald ⟨0, 0, 0, 100, 50, 0, 0, 0⟩ ⟨20, 0, 0, 100, 40, 0, 0, 0⟩ -
      idled ⟨0, 0, 0, 100, 50, 0, 0, 0⟩ ⟨20, 0, 0, 100, 40, 0, 0, 0⟩).toNat = 20 ∧
      (totald ⟨0, 0, 0, 100, 50, 0, 0, 0⟩ ⟨20, 0, 0, 100, 40, 0, 0, 0⟩).toNat = 10 := by decide
  rw [n1.1, n1.2] at e1
  rw [n2.1, n2.2] at e2
  simp only [cpuRun, e1, e2]
  norm_num

end SistemaMonitoreo.Cpu
