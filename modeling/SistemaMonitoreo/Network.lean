import SistemaMonitoreo.LibC
import Mathlib.Data.List.GetD

namespace SistemaMonitoreo.Network

open LibC

structure NetworkMetrics where
  interface : List Char
  receiveBytes : BitVec 64
  transmitBytes : BitVec 64
  receiveErrors : BitVec 64
  transmitErrors : BitVec 64
  receiveDropped : BitVec 64
  transmitDropped : BitVec 64
  deriving DecidableEq, Repr

/-- The zero-initialised global `metrics_network`. -/
def NetworkMetrics.zero : NetworkMetrics := ⟨[], 0, 0, 0, 0, 0, 0⟩

/-- `strtoul` on what `strtok` returned: a NULL token crashes. -/
def strtoulTok : Option (List Char) → Except Fault (BitVec 64)
  | none => .error .strtoulNull
  | some token => .ok (strtoul token)

/-- `for (int i = 0; i < n; i++) token = strtok (NULL, " ");` -/
def skipTokens : Nat → Option (List Char) → List Char → Option (List Char) × List Char
  | 0, token, rest => (token, rest)
  | n + 1, _, rest =>
    let (token, rest) := strtok ' ' rest
    skipTokens n token rest

/-- The body of the loop of `get_network_metrics` on one interface line: the name before the
colon is copied into `interface[32]`, then the token walk stores six counters. -/
def scanInterface (buffer : List Char) (m : NetworkMetrics) : Except Fault NetworkMetrics :=
  match strtok ':' buffer with
  | (none, _) => pure m
  | (some name, rest) =>
    if 32 ≤ name.length then throw .strcpyOverflow else
    let m := { m with interface := name }
    match strtok ' ' rest with
    | (none, _) => pure m
    | (some token, rest) => do
      let m := { m with receiveBytes := strtoul token }
      let (token, rest) := skipTokens 2 (some token) rest
      let receiveErrors ← strtoulTok token
      let (dropped, rest) := strtok ' ' rest
      let receiveDropped ← strtoulTok dropped
      let m := { m with receiveErrors, receiveDropped }
      let (token, rest) := skipTokens 5 token rest
      let transmitBytes ← strtoulTok token
      let (token, rest) := skipTokens 2 token rest
      let transmitErrors ← strtoulTok token
      let (dropped, _) := strtok ' ' rest
      let transmitDropped ← strtoulTok dropped
      pure { m with transmitBytes, transmitErrors, transmitDropped }

/-- One pass of `while (fgets (buffer, BUFFER_SIZE, fp) != NULL)`: the first two buffers are
the header. -/
def netDevStep (state : Nat × NetworkMetrics) (buffer : List Char) :
    Except Fault (Nat × NetworkMetrics) :=
  if state.1 < 2 then pure (state.1 + 1, state.2)
  else do
    let m ← scanInterface (cstr buffer) state.2
    pure (state.1 + 1, m)

/-- `get_network_metrics`: `-1` when /proc/net/dev cannot be opened, otherwise 0 after every
line has been scanned into the one `NetworkMetrics`. -/
def getNetworkMetrics (netDev : Option (List Char)) (m : NetworkMetrics) :
    Except Fault (Int × NetworkMetrics) :=
  match netDev with
  | none => pure (-1, m)
  | some text => do
    let state ← (lines bufferSize text).foldlM netDevStep (0, m)
    pure (0, state.2)

theorem getNetworkMetrics_cases (netDev : Option (List Char)) (m m' : NetworkMetrics) (r : Int)
    (h : getNetworkMetrics netDev m = .ok (r, m')) : (r = -1 ∧ m' = m) ∨ r = 0 := by
  cases netDev with
  | none =>
    simp only [getNetworkMetrics, pure, Except.pure, Except.ok.injEq, Prod.mk.injEq] at h
    exact .inl ⟨h.1.symm, h.2.symm⟩
  | some text =>
    simp only [getNetworkMetrics, bind, Except.bind] at h
    split at h
    · cases h
    · simp only [pure, Except.pure, Except.ok.injEq, Prod.mk.injEq] at h
      exact .inr h.1.symm

def counterText (c : Nat × BitVec 64) : List Char :=
  List.replicate (c.1 + 1) ' ' ++ decimal c.2.toNat

def countersText : List (Nat × BitVec 64) → List Char
  | [] => []
  | c :: cs => counterText c ++ countersText cs

/-- The name right-aligned in six columns as `%6s` prints it, a colon and the counters. -/
def devLineBody (name : List Char) (counters : List (Nat × BitVec 64)) : List Char :=
  List.replicate (6 - name.length) ' ' ++ name ++ ':' :: countersText counters

theorem countersText_length_le (cs : List (Nat × BitVec 64)) :
    (countersText cs).length ≤ (cs.map fun c => c.1 + 2 + c.2.toNat).sum := by
  induction cs with
  | nil => simp [countersText]
  | cons c cs ih =>
    have hc := decimal_length_le c.2.toNat
    simp only [countersText, counterText, List.length_append, List.length_replicate,
      List.map_cons, List.sum_cons]
    omega

theorem countersText_append (a b : List (Nat × BitVec 64)) :
    countersText (a ++ b) = countersText a ++ countersText b := by
  induction a with
  | nil => rfl
  | cons c a ih => simp [countersText, ih]

/-- An interface line of /proc/net/dev in the kernel's layout, shorter than 256 bytes with its
newline. -/
structure DevLine where
  name : List Char
  counters : List (Nat × BitVec 64)
  name_ne_nil : name ≠ []
  name_length : name.length ≤ 15
  colon_not_mem : ':' ∉ name
  newline_not_mem : '\n' ∉ name
  nul_not_mem : Char.ofNat 0 ∉ name
  counters_length : counters.length = 16
  body_length : (devLineBody name counters).length + 1 < 256

def DevLine.text (l : DevLine) : List Char := devLineBody l.name l.counters ++ ['\n']

def DevLine.metrics (l : DevLine) : NetworkMetrics where
  interface := List.replicate (6 - l.name.length) ' ' ++ l.name
  receiveBytes := (l.counters.getD 0 (0, 0)).2
  transmitBytes := (l.counters.getD 8 (0, 0)).2
  receiveErrors := (l.counters.getD 2 (0, 0)).2
  transmitErrors := (l.counters.getD 10 (0, 0)).2
  receiveDropped := (l.counters.getD 3 (0, 0)).2
  transmitDropped := (l.counters.getD 11 (0, 0)).2

/-- A /proc/net/dev text: two header lines, then the interface lines. -/
structure NetDevText where
  header1 : List Char
  header2 : List Char
  interfaces : List DevLine
  header1_newline : '\n' ∉ header1
  header2_newline : '\n' ∉ header2
  header1_length : header1.length + 1 < 256
  header2_length : header2.length + 1 < 256

def devLinesText : List DevLine → List Char
  | [] => []
  | l :: ls => l.text ++ devLinesText ls

def NetDevText.text (t : NetDevText) : List Char :=
  t.header1 ++ '\n' :: (t.header2 ++ '\n' :: devLinesText t.interfaces)

theorem strtok_countersText (c c' : Nat × BitVec 64) (cs : List (Nat × BitVec 64))
    (R : List Char) : strtok ' ' (countersText (c :: c' :: cs) ++ R) =
      (some (decimal c.2.toNat), (countersText (c' :: cs) ++ R).tail) := by
  have hd : ' ' ∉ decimal c.2.toNat := fun h => absurd (decimal_isDigit _ _ h) (by decide)
  simp only [countersText, counterText, List.append_assoc, List.replicate_succ, List.cons_append,
    strtok_delim, strtok_replicate, List.tail_cons]
  exact strtok_token ' ' _ _ (decimal_ne_nil _) hd

theorem strtok_countersText_tail (c : Nat × BitVec 64) (cs : List (Nat × BitVec 64))
    (R : List Char) : strtok ' ' (countersText (c :: cs) ++ R).tail =
      strtok ' ' (countersText (c :: cs) ++ R) := by
  simp [countersText, counterText, List.replicate_succ]

def ReadsCounters (rest : List Char) (cs : List (Nat × BitVec 64)) (R : List Char) : Prop :=
  strtok ' ' rest = strtok ' ' (countersText cs ++ R)

theorem strtok_counters (cs : List (Nat × BitVec 64)) (R : List Char) (k : Nat)
    (rest : List Char) (h : ReadsCounters rest (cs.drop k) R) (hk : k + 1 < cs.length) :
    strtok ' ' rest = (some (decimal (cs.getD k (0, 0)).2.toNat),
      (countersText (cs.drop (k + 1)) ++ R).tail) ∧
      ReadsCounters (countersText (cs.drop (k + 1)) ++ R).tail (cs.drop (k + 1)) R := by
  have hnext := List.drop_eq_getElem_cons (show k + 1 < cs.length from hk)
  rw [ReadsCounters, List.drop_eq_getElem_cons (by omega), hnext, strtok_countersText] at h
  rw [ReadsCounters, hnext, strtok_countersText_tail, h, List.getD_eq_getElem _ _ (by omega)]
  exact ⟨rfl, rfl⟩

theorem skipTokens_counters (cs : List (Nat × BitVec 64)) (R : List Char) (n k : Nat)
    (rest : List Char) (h : ReadsCounters rest (cs.drop k) R) (hk : k + n + 1 < cs.length) :
    ∃ rest', (∀ token, skipTokens (n + 1) token rest =
        (some (decimal (cs.getD (k + n) (0, 0)).2.toNat), rest')) ∧
      ReadsCounters rest' (cs.drop (k + n + 1)) R := by
  obtain ⟨hstep, hnext⟩ := strtok_counters cs R k rest h (by omega)
  induction n generalizing k rest with
  | zero => exact ⟨_, fun _ => by simp [skipTokens, hstep], hnext⟩
  | succ n ih =>
    obtain ⟨hstep', hnext'⟩ := strtok_counters cs R (k + 1) _ hnext (by omega)
    obtain ⟨rest', h', hr'⟩ := ih (k + 1) _ hnext (by omega) hstep' hnext'
    refine ⟨rest', fun token => ?_, ?_⟩
    · rw [skipTokens, hstep]
      simpa only [Nat.add_right_comm k 1 n, Nat.add_assoc] using h' _
    · simpa only [Nat.add_right_comm k 1 n, Nat.add_assoc] using hr'

theorem skipTokens_one (token : Option (List Char)) (rest : List Char) :
    skipTokens 1 token rest = strtok ' ' rest := rfl

theorem scanInterface_counters (name : List Char) (cs : List (Nat × BitVec 64)) (R : List Char)
    (m : NetworkMetrics) (hne : name ≠ []) (hcolon : ':' ∉ name) (hlen : name.length < 32)
    (hcs : 12 < cs.length) :
    scanInterface (name ++ ':' :: (countersText cs ++ R)) m =
      .ok ⟨name, (cs.getD 0 (0, 0)).2, (cs.getD 8 (0, 0)).2, (cs.getD 2 (0, 0)).2,
        (cs.getD 10 (0, 0)).2, (cs.getD 3 (0, 0)).2, (cs.getD 11 (0, 0)).2⟩ := by
  obtain ⟨r1, e1, h1⟩ := skipTokens_counters cs R 0 0 _ rfl (by omega)
  obtain ⟨r3, e3, h3⟩ := skipTokens_counters cs R 1 1 r1 h1 (by omega)
  obtain ⟨r4, e4, h4⟩ := skipTokens_counters cs R 0 3 r3 h3 (by omega)
  obtain ⟨r9, e9, h9⟩ := skipTokens_counters cs R 4 4 r4 h4 (by omega)
  obtain ⟨r11, e11, h11⟩ := skipTokens_counters cs R 1 9 r9 h9 (by omega)
  obtain ⟨r12, e12, -⟩ := skipTokens_counters cs R 0 11 r11 h11 (by omega)
  simp only [skipTokens_one, List.drop_zero, Nat.reduceAdd] at e1 e3 e4 e9 e11 e12
  simp only [scanInterface, strtok_token ':' name _ hne hcolon, not_le.mpr hlen, ↓reduceIte,
    e1 none, e3, e4 none, e9, e11, e12 none, strtoulTok, strtoul_decimal]
  rfl

theorem skipTokens_succ (n : Nat) (token : Option (List Char)) (rest : List Char) :
    skipTokens (n + 1) token rest = skipTokens n (strtok ' ' rest).1 (strtok ' ' rest).2 := rfl

theorem skipTokens_tokensFrom (k : Nat) (rest : List Char) (toks : List (List Char))
    (h : TokensFrom ' ' rest toks) :
    ∃ rest', (∀ token, skipTokens (k + 1) token rest = (toks[k]?, rest')) ∧
      TokensFrom ' ' rest' (toks.drop (k + 1)) := by
  induction k generalizing rest toks with
  | zero =>
    cases toks with
    | nil => exact ⟨[], fun _ => by rw [skipTokens_one, h]; rfl, rfl⟩
    | cons t toks =>
      obtain ⟨rest', hs, h'⟩ := h
      exact ⟨rest', fun _ => by rw [skipTokens_one, hs, List.getElem?_cons_zero], h'⟩
  | succ k ih =>
    cases toks with
    | nil =>
      obtain ⟨rest', e, h'⟩ := ih [] [] rfl
      exact ⟨rest', fun _ => by rw [skipTokens_succ, h, e]; rfl, h'⟩
    | cons t toks =>
      obtain ⟨r, hs, hr⟩ := h
      obtain ⟨rest', e, h'⟩ := ih r toks hr
      exact ⟨rest', fun _ => by rw [skipTokens_succ, hs, List.getElem?_cons_succ]; exact e _, h'⟩

theorem strtoulTok_bind_error {α : Type} (token : Option (List Char))
    (f : BitVec 64 → Except Fault α) (h : ∀ v, f v = .error .strtoulNull) :
    strtoulTok token >>= f = .error .strtoulNull := by
  cases token with
  | none => rfl
  | some t => exact h _

theorem scanInterface_few_tokens (name rest : List Char) (toks : List (List Char))
    (m : NetworkMetrics) (hne : name ≠ []) (hcolon : ':' ∉ name) (hlen : name.length < 32)
    (h : TokensFrom ' ' rest toks) (hnil : toks ≠ []) (hfew : toks.length < 12) :
    scanInterface (name ++ ':' :: rest) m = .error .strtoulNull := by
  obtain ⟨t, ts, rfl⟩ := List.exists_cons_of_ne_nil hnil
  obtain ⟨r1, hs1, h1⟩ := h
  obtain ⟨r3, e3, h3⟩ := skipTokens_tokensFrom 1 r1 ts h1
  obtain ⟨r4, e4, h4⟩ := skipTokens_tokensFrom 0 r3 _ h3
  obtain ⟨r9, e9, h9⟩ := skipTokens_tokensFrom 4 r4 _ h4
  obtain ⟨r11, e11, h11⟩ := skipTokens_tokensFrom 1 r9 _ h9
  obtain ⟨r12, e12, -⟩ := skipTokens_tokensFrom 0 r11 _ h11
  simp only [zero_add, skipTokens_one, Nat.reduceAdd] at e3 e4 e9 e11 e12
  have hlast : ((((ts.drop 2).drop 1).drop 5).drop 2)[0]? = none := by
    simp only [List.drop_drop, List.getElem?_drop]
    exact List.getElem?_eq_none (by simp at hfew; omega)
  simp only [scanInterface, strtok_token ':' name _ hne hcolon, not_le.mpr hlen, ↓reduceIte, hs1,
    e3, e4 none, e9, e11, e12 none, hlast]
  refine strtoulTok_bind_error _ _ fun _ => strtoulTok_bind_error _ _ fun _ =>
    strtoulTok_bind_error _ _ fun _ => strtoulTok_bind_error _ _ fun _ => rfl

theorem counterText_chars (c : Nat × BitVec 64) : ∀ x ∈ counterText c, x = ' ' ∨ x.isDigit := by
  intro x hx
  simp only [counterText, List.mem_append, List.mem_replicate] at hx
  rcases hx with ⟨-, rfl⟩ | hx
  · exact .inl rfl
  · exact .inr (decimal_isDigit _ x hx)

theorem countersText_chars (cs : List (Nat × BitVec 64)) :
    ∀ x ∈ countersText cs, x = ' ' ∨ x.isDigit := by
  induction cs with
  | nil => simp [countersText]
  | cons c cs ih =>
    intro x hx
    rcases List.mem_append.mp hx with hx | hx
    · exact counterText_chars c x hx
    · exact ih x hx

theorem tokensFrom_countersText (cs : List (Nat × BitVec 64)) :
    ∃ toks, TokensFrom ' ' (countersText cs ++ ['\n']) toks ∧ toks.length = max 1 cs.length ∧
      ∀ i < cs.length, strtoul (toks.getD i []) = (cs.getD i (0, 0)).2 := by
  induction cs with
  | nil =>
    exact ⟨[['\n']], tokensFrom_last ' ' _ (by simp) (by decide), rfl,
      fun i hi => absurd hi (Nat.not_lt_zero _)⟩
  | cons c cs ih =>
    cases cs with
    | nil =>
      have hsp : ' ' ∉ decimal c.2.toNat ++ ['\n'] := by
        rw [List.mem_append, List.mem_singleton]
        exact fun h => h.elim (fun h => absurd (decimal_isDigit _ _ h) (by decide)) (by decide)
      have hs : strtok ' ' (countersText [c] ++ ['\n']) = strtok ' ' (decimal c.2.toNat ++ ['\n']) := by
        simp [countersText, counterText, List.replicate_succ]
      refine ⟨[decimal c.2.toNat ++ ['\n']],
        (tokensFrom_congr ' ' hs _).2 (tokensFrom_last ' ' _ (by simp) hsp), rfl, ?_⟩
      intro i hi
      obtain rfl : i = 0 := by simpa using hi
      exact strtoul_decimal_append c.2 ['\n'] (by simp)
    | cons c' cs =>
      obtain ⟨toks, h, hlen, hval⟩ := ih
      refine ⟨decimal c.2.toNat :: toks, ⟨_, strtok_countersText c c' cs ['\n'],
        (tokensFrom_congr ' ' (strtok_countersText_tail c' cs ['\n']) toks).2 h⟩, ?_, ?_⟩
      · simp only [List.length_cons, hlen]
        omega
      · intro i hi
        cases i with
        | zero => exact strtoul_decimal c.2
        | succ i => exact hval i (by simpa using hi)

theorem devLineBody_not_mem (name : List Char) (cs : List (Nat × BitVec 64)) (x : Char)
    (hx : x ∈ devLineBody name cs) (hsp : x ≠ ' ') (hc : x ≠ ':') (hd : x.isDigit = false) :
    x ∈ name := by
  simp only [devLineBody, List.mem_append, List.mem_replicate, List.mem_cons] at hx
  rcases hx with (⟨-, rfl⟩ | hx) | rfl | hx
  · exact absurd rfl hsp
  · exact hx
  · exact absurd rfl hc
  · rcases countersText_chars _ x hx with rfl | h
    · exact absurd rfl hsp
    · simp [h] at hd

theorem DevLine.body_not_mem (l : DevLine) (x : Char) (hx : x ∈ devLineBody l.name l.counters)
    (hsp : x ≠ ' ') (hc : x ≠ ':') (hd : x.isDigit = false) : x ∈ l.name :=
  devLineBody_not_mem _ _ x hx hsp hc hd

theorem DevLine.newline_not_mem_body (l : DevLine) : '\n' ∉ devLineBody l.name l.counters :=
  fun h => l.newline_not_mem (l.body_not_mem '\n' h (by decide) (by decide) (by decide))

theorem cstr_devLineBody (name : List Char) (cs : List (Nat × BitVec 64))
    (hnul : Char.ofNat 0 ∉ name) :
    cstr (devLineBody name cs ++ ['\n']) = devLineBody name cs ++ ['\n'] := by
  refine List.takeWhile_eq_self_iff.mpr fun x hx => ?_
  rcases List.mem_append.mp hx with hx | hx
  · have : x ≠ Char.ofNat 0 := by
      rintro rfl
      exact hnul (devLineBody_not_mem _ _ _ hx (by decide) (by decide) (by decide))
    simpa using this
  · rw [List.mem_singleton.mp hx]
    decide

theorem DevLine.cstr_text (l : DevLine) : cstr l.text = l.text :=
  cstr_devLineBody _ _ l.nul_not_mem

theorem DevLine.padded_name (l : DevLine) :
    List.replicate (6 - l.name.length) ' ' ++ l.name ≠ [] ∧
      ':' ∉ List.replicate (6 - l.name.length) ' ' ++ l.name ∧
      (List.replicate (6 - l.name.length) ' ' ++ l.name).length < 32 := by
  refine ⟨by simp [l.name_ne_nil], fun h => ?_, ?_⟩
  · rcases List.mem_append.mp h with h | h
    · exact absurd (List.mem_replicate.mp h).2 (by decide)
    · exact l.colon_not_mem h
  · simp only [List.length_append, List.length_replicate]
    have := l.name_length
    omega

theorem scanInterface_devLine (l : DevLine) (m : NetworkMetrics) :
    scanInterface (cstr l.text) m = .ok l.metrics := by
  obtain ⟨hne, hcolon, hlen⟩ := l.padded_name
  rw [DevLine.cstr_text, DevLine.text, devLineBody, List.append_assoc, List.cons_append,
    scanInterface_counters _ _ _ m hne hcolon hlen (by rw [l.counters_length]; omega)]
  rfl

theorem lines_devLinesText_append (ls : List DevLine) (rest : List Char) :
    lines bufferSize (devLinesText ls ++ rest) = ls.map DevLine.text ++ lines bufferSize rest := by
  induction ls with
  | nil => rfl
  | cons l ls ih =>
    have hlen := l.body_length
    rw [devLinesText, DevLine.text, List.append_assoc, List.append_assoc, List.singleton_append,
      lines_line _ _ _ l.newline_not_mem_body (by simp only [bufferSize]; omega), ih]
    rfl

theorem lines_devLinesText (ls : List DevLine) :
    lines bufferSize (devLinesText ls) = ls.map DevLine.text := by
  simpa [lines, fgetsLoop] using lines_devLinesText_append ls []

theorem foldlM_netDevStep (ls : List DevLine) (k : Nat) (hk : 2 ≤ k) (m : NetworkMetrics) :
    (ls.map DevLine.text).foldlM netDevStep (k, m) =
      .ok (k + ls.length, (ls.getLast?.map DevLine.metrics).getD m) := by
  induction ls generalizing k m with
  | nil => rfl
  | cons l ls ih =>
    have hstep : netDevStep (k, m) l.text = pure (k + 1, l.metrics) := by
      simp only [netDevStep, show ¬ k < 2 by omega, ↓reduceIte, scanInterface_devLine]
      rfl
    simp only [List.map_cons, List.foldlM_cons, hstep, pure_bind]
    rw [ih (k + 1) (by omega)]
    cases ls with
    | nil => rfl
    | cons l' ls =>
      simp only [List.getLast?_cons_cons, List.getLast?_eq_getLast _ (List.cons_ne_nil l' ls),
        Option.map_some', Option.getD_some, List.length_cons]
      congr 2
      omega

/-- The interface lines of /proc/net/dev are read into one `NetworkMetrics`, so whatever the
earlier lines held, the last line's name and counters are what the call leaves. -/
theorem getNetworkMetrics_last (t : NetDevText) (h : t.interfaces ≠ []) (m : NetworkMetrics) :
    getNetworkMetrics (some t.text) m = .ok (0, (t.interfaces.getLast h).metrics) := by
  have hlines : lines bufferSize t.text =
      (t.header1 ++ ['\n']) :: (t.header2 ++ ['\n']) :: t.interfaces.map DevLine.text := by
    have h1 := t.header1_length
    have h2 := t.header2_length
    rw [NetDevText.text, lines_line _ _ _ t.header1_newline (by simp only [bufferSize]; omega),
      lines_line _ _ _ t.header2_newline (by simp only [bufferSize]; omega), lines_devLinesText]
  have hfold := foldlM_netDevStep t.interfaces 2 le_rfl m
  simp only [getNetworkMetrics, hlines, List.foldlM_cons, netDevStep, Nat.reduceAdd,
    show (0 : Nat) < 2 by decide, show (1 : Nat) < 2 by decide, ↓reduceIte, pure_bind, hfold,
    List.getLast?_eq_getLast _ h]
  rfl

def sampleNetDev : NetDevText where
  header1 := "Inter-|   Receive".toList
  header2 := " face |bytes    packets".toList
  interfaces :=
    [⟨"eth0".toList, List.replicate 16 (0, 0), by decide, by decide, by decide, by decide,
        by decide, by decide, by decide⟩,
      ⟨"lo".toList, (List.range 16).map fun i => (0, BitVec.ofNat 64 (i + 1)), by decide,
        by decide, by decide, by decide, by decide, by decide, by
          have h := countersText_length_le ((List.range 16).map fun i => (0, BitVec.ofNat 64 (i + 1)))
          have hs : (((List.range 16).map fun i => ((0 : Nat), BitVec.ofNat 64 (i + 1))).map
              fun c => c.1 + 2 + c.2.toNat).sum = 168 := by decide
          have hn : "lo".toList.length = 2 := rfl
          simp only [devLineBody, List.length_append, List.length_replicate, List.length_cons]
          omega⟩]
  header1_newline := by decide
  header2_newline := by decide
  header1_length := by decide
  header2_length := by decide

theorem getNetworkMetrics_last_sample :
    getNetworkMetrics (some sampleNetDev.text) .zero =
      .ok (0, ⟨"    lo".toList, 1, 9, 3, 11, 4, 12⟩) :=
  getNetworkMetrics_last sampleNetDev (by simp [sampleNetDev]) _

def DevLine.truncated (l : DevLine) (k : Nat) : List Char :=
  devLineBody l.name (l.counters.take k) ++ ['\n']

theorem scanInterface_truncated (l : DevLine) (k : Nat) (hk : k < 12) (m : NetworkMetrics) :
    scanInterface (cstr (l.truncated k)) m = .error .strtoulNull := by
  obtain ⟨hne, hcolon, hlen⟩ := l.padded_name
  obtain ⟨toks, h, htoks, -⟩ := tokensFrom_countersText (l.counters.take k)
  rw [DevLine.truncated, cstr_devLineBody _ _ l.nul_not_mem, devLineBody, List.append_assoc,
    List.cons_append]
  refine scanInterface_few_tokens _ _ toks m hne hcolon hlen h ?_ ?_
  · exact List.ne_nil_of_length_pos (by omega)
  · simp only [htoks, List.length_take]
    omega

/-- A line without a colon, such as the tail of a line that `fgets` split, long enough that
`strtok (buffer, ":")` returns 32 bytes or more. -/
structure ColonlessLine where
  body : List Char
  colon_not_mem : ':' ∉ body
  newline_not_mem : '\n' ∉ body
  nul_not_mem : Char.ofNat 0 ∉ body
  long : 31 ≤ body.length
  fits : body.length + 1 < 256

def ColonlessLine.text (l : ColonlessLine) : List Char := l.body ++ ['\n']

theorem scanInterface_colonless (l : ColonlessLine) (m : NetworkMetrics) :
    scanInterface (cstr l.text) m = .error .strcpyOverflow := by
  have hnul : ∀ x ∈ l.text, (x != Char.ofNat 0) = true := by
    intro x hx
    rcases List.mem_append.mp hx with hx | hx
    · simpa using fun e : x = Char.ofNat 0 => l.nul_not_mem (e ▸ hx)
    · rw [List.mem_singleton.mp hx]
      decide
  have hcolon : ':' ∉ l.text := by
    rw [ColonlessLine.text, List.mem_append, List.mem_singleton]
    exact fun h => h.elim l.colon_not_mem (by decide)
  have hlong : 32 ≤ l.text.length := by
    simp only [ColonlessLine.text, List.length_append, List.length_singleton]
    have := l.long
    omega
  rw [cstr, List.takeWhile_eq_self_iff.mpr hnul]
  simp only [scanInterface, strtok_last ':' l.text (by simp [ColonlessLine.text]) hcolon, hlong,
    ↓reduceIte]
  rfl

theorem getNetworkMetrics_faulty_line (t : NetDevText) (body rest : List Char) (e : Fault)
    (m : NetworkMetrics) (hb : '\n' ∉ body) (hlen : body.length + 1 < 256)
    (hscan : ∀ m, scanInterface (cstr (body ++ ['\n'])) m = .error e) :
    getNetworkMetrics (some (t.text ++ (body ++ ['\n']) ++ rest)) m = .error e := by
  have hlines : lines bufferSize (t.text ++ (body ++ ['\n']) ++ rest) =
      (t.header1 ++ ['\n']) :: (t.header2 ++ ['\n']) ::
        (t.interfaces.map DevLine.text ++ (body ++ ['\n']) :: lines bufferSize rest) := by
    have h1 := t.header1_length
    have h2 := t.header2_length
    have htext : t.text ++ (body ++ ['\n']) ++ rest = t.header1 ++ '\n' :: (t.header2 ++ '\n' ::
        (devLinesText t.interfaces ++ (body ++ '\n' :: rest))) := by
      simp [NetDevText.text]
    rw [htext, lines_line _ _ _ t.header1_newline (by simp only [bufferSize]; omega),
      lines_line _ _ _ t.header2_newline (by simp only [bufferSize]; omega),
      lines_devLinesText_append, lines_line _ _ _ hb (by simp only [bufferSize]; omega)]
  have hfold : (t.interfaces.map DevLine.text).foldlM netDevStep (2, m) =
      pure (2 + t.interfaces.length, (t.interfaces.getLast?.map DevLine.metrics).getD m) :=
    foldlM_netDevStep t.interfaces 2 le_rfl m
  simp only [getNetworkMetrics, hlines, List.foldlM_cons, netDevStep, Nat.reduceAdd,
    show (0 : Nat) < 2 by decide, show (1 : Nat) < 2 by decide, ↓reduceIte, pure_bind,
    List.foldlM_append, hfold, show ¬ 2 + t.interfaces.length < 2 by omega, hscan]
  rfl

/-- Whatever kernel-form lines come first, a line cut after fewer than twelve counters makes
the call hand NULL to `strtoul`, and a line of 31 bytes or more without a colon overflows
`interface[32]`. -/
theorem getNetworkMetrics_malformed (t : NetDevText) (l : DevLine) (k : Nat) (hk : k < 12)
    (w : ColonlessLine) (rest : List Char) (m : NetworkMetrics) :
    getNetworkMetrics (some (t.text ++ l.truncated k ++ rest)) m = .error .strtoulNull ∧
      getNetworkMetrics (some (t.text ++ w.text ++ rest)) m = .error .strcpyOverflow := by
  have hnl : '\n' ∉ devLineBody l.name (l.counters.take k) := fun h =>
    l.newline_not_mem (devLineBody_not_mem _ _ _ h (by decide) (by decide) (by decide))
  have hfit : (devLineBody l.name (l.counters.take k)).length + 1 < 256 := by
    have hle : (countersText (l.counters.take k)).length ≤ (countersText l.counters).length := by
      conv_rhs => rw [← List.take_append_drop k l.counters, countersText_append, List.length_append]
      omega
    have := l.body_length
    simp only [devLineBody, List.length_append, List.length_cons] at this ⊢
    omega
  exact ⟨getNetworkMetrics_faulty_line t _ rest _ m hnl hfit (scanInterface_truncated l k hk),
    getNetworkMetrics_faulty_line t _ rest _ m w.newline_not_mem w.fits (scanInterface_colonless w)⟩

def sampleColonless : ColonlessLine where
  body := "    0       0    0    0    0     0          0         0".toList
  colon_not_mem := by decide
  newline_not_mem := by decide
  nul_not_mem := by decide
  long := by decide
  fits := by decide

theorem getNetworkMetrics_malformed_sample :
    3 < 12 ∧
      getNetworkMetrics (some (sampleNetDev.text ++
        (sampleNetDev.interfaces.getLast (by simp [sampleNetDev])).truncated 3 ++ [])) .zero =
          .error .strtoulNull ∧
      getNetworkMetrics (some (sampleNetDev.text ++ sampleColonless.text ++ [])) .zero =
        .error .strcpyOverflow :=
  ⟨by decide, getNetworkMetrics_malformed sampleNetDev _ 3 (by decide) sampleColonless [] .zero⟩

end SistemaMonitoreo.Network
