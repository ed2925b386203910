import Mathlib.Data.Nat.Digits
import Mathlib.Data.BitVec

namespace SistemaMonitoreo.LibC

/-- `BUFFER_SIZE` of metrics.h. -/
def bufferSize : Nat := 256

/-- Undefined behaviour the program can reach through the C library, taken as a crash. -/
inductive Fault
  | strtoulNull
  | strcpyOverflow
  | strdupNull
  | strcmpNull
  | sscanfOverflow
  deriving DecidableEq, Repr

/-- The white-space class of `isspace` in the C locale. -/
def isspace (c : Char) : Bool :=
  c == ' ' || c == '\t' || c == '\n' || c == '\r' || c == Char.ofNat 11 || c == Char.ofNat 12

/-- What the string functions see of a buffer: the characters before its first NUL. -/
def cstr (buf : List Char) : List Char := buf.takeWhile (· != Char.ofNat 0)

def fgetsTake : Nat → List Char → List Char × List Char
  | 0, s => ([], s)
  | _ + 1, [] => ([], [])
  | n + 1, c :: s =>
    if c = '\n' then ([c], s) else
      let r := fgetsTake n s
      (c :: r.1, r.2)

/-- `fgets` into a buffer of `size` bytes: at most `size - 1` characters, up to and including
a newline; `none` at end of file. -/
def fgets (size : Nat) (s : List Char) : Option (List Char × List Char) :=
  if s.isEmpty then none else some (fgetsTake (size - 1) s)

def fgetsLoop (size : Nat) : Nat → List Char → List (List Char)
  | 0, _ => []
  | fuel + 1, s =>
    match fgets size s with
    | none => []
    | some (buffer, rest) => buffer :: fgetsLoop size fuel rest

/-- The buffers that `while (fgets (buffer, size, fp) != NULL)` reads, in order. Each call takes
at least one character, so the length of the file bounds the number of calls. -/
def lines (size : Nat) (s : List Char) : List (List Char) := fgetsLoop size s.length s

/-- `strtok` with a one-character delimiter, over the remainder it keeps between calls: it skips
delimiters, cuts the token at the next one and resumes after it. -/
def strtok (delim : Char) (s : List Char) : Option (List Char) × List Char :=
  match s.dropWhile (· == delim) with
  | [] => (none, [])
  | t => (some (t.takeWhile (· != delim)), (t.dropWhile (· != delim)).drop 1)

def digitsValue (ds : List Char) : Nat :=
  ds.foldl (fun n c => 10 * n + (c.toNat - '0'.toNat)) 0

def scanDigits (s : List Char) : Option (Nat × List Char) :=
  match s.takeWhile Char.isDigit with
  | [] => none
  | ds => some (digitsValue ds, s.dropWhile Char.isDigit)

/-- An optional sign and at least one digit, as `strtoul` and the integer conversions of
`sscanf` read them. The flag is set for a minus sign. -/
def scanInteger : List Char → Option (Bool × Nat × List Char)
  | '-' :: s => (scanDigits s).map fun (n, r) => (true, n, r)
  | '+' :: s => (scanDigits s).map fun (n, r) => (false, n, r)
  | s => (scanDigits s).map fun (n, r) => (false, n, r)

/-- The result of `strtoul` and `strtoull` on 64 bits: a value out of range saturates and a
minus sign negates modulo `2^64`. -/
def toUnsigned (neg : Bool) (n : Nat) : BitVec 64 :=
  if 2 ^ 64 ≤ n then BitVec.allOnes 64
  else if neg then -BitVec.ofNat 64 n else BitVec.ofNat 64 n

/-- `strtoul (token, NULL, 10)`: zero when no digits follow the white space. -/
def strtoul (s : List Char) : BitVec 64 :=
  match scanInteger (s.dropWhile isspace) with
  | none => 0
  | some (neg, n, _) => toUnsigned neg n

/-- The decimal numeral of `n`, as `printf` writes it. -/
def decimal (n : Nat) : List Char :=
  if n = 0 then ['0'] else (Nat.digits 10 n).reverse.map Nat.digitChar

theorem cstr_eq_self (l : List Char) (h : ∀ c ∈ l, c ≠ Char.ofNat 0) : cstr l = l :=
  List.takeWhile_eq_self_iff.mpr fun c hc => by simpa using h c hc

theorem cstr_append_of_nul_not_mem (l m : List Char) (hl : ∀ c ∈ l, c ≠ Char.ofNat 0) :
    cstr (l ++ m) = l ++ cstr m :=
  List.takeWhile_append_of_pos fun c hc => by simpa using hl c hc

theorem isPrefixOf_cstr_of_head (w x : List Char) (c : Char) (hx : x.head? = some c)
    (hc : c ≠ Char.ofNat 0) (hw : w ≠ []) (hwc : w.head? ≠ some c) : w.isPrefixOf (cstr x) = false := by
  cases x with
  | nil => cases hx
  | cons c' x' =>
    cases w with
    | nil => exact absurd rfl hw
    | cons d w' =>
      simp only [List.head?_cons, Option.some.injEq] at hx
      subst hx
      have hd : d ≠ c' := fun h => hwc (by rw [h]; rfl)
      simp [cstr, hc, List.isPrefixOf, hd]

theorem fgetsTake_line (body rest : List Char) (n : Nat) (hb : '\n' ∉ body)
    (hn : body.length < n) : fgetsTake n (body ++ '\n' :: rest) = (body ++ ['\n'], rest) := by
  induction body generalizing n with
  | nil =>
    cases n with
    | zero => simp at hn
    | succ n => simp [fgetsTake]
  | cons c body ih =>
    cases n with
    | zero => simp at hn
    | succ n =>
      have hc : c ≠ '\n' := fun h => hb (h ▸ List.mem_cons_self c body)
      simp only [List.cons_append, fgetsTake, hc, ↓reduceIte, List.append_eq,
        ih n (fun h => hb (List.mem_cons_of_mem c h)) (by simpa using hn)]

theorem fgetsTake_append (n : Nat) (s : List Char) :
    (fgetsTake n s).1 ++ (fgetsTake n s).2 = s := by
  induction n generalizing s with
  | zero => rfl
  | succ n ih =>
    cases s with
    | nil => rfl
    | cons c s =>
      simp only [fgetsTake]
      split
      · simp_all
      · simp [ih s]

theorem fgetsTake_ne_nil (n : Nat) (c : Char) (s : List Char) :
    (fgetsTake (n + 1) (c :: s)).1 ≠ [] := by
  simp only [fgetsTake]
  split <;> simp

theorem fgetsLoop_congr (size : Nat) (hsize : 2 ≤ size) (fuel fuel' : Nat) (s : List Char)
    (hf : s.length ≤ fuel) (hf' : s.length ≤ fuel') :
    fgetsLoop size fuel s = fgetsLoop size fuel' s := by
  induction fuel generalizing fuel' s with
  | zero =>
    obtain rfl : s = [] := List.eq_nil_of_length_eq_zero (by omega)
    cases fuel' <;> rfl
  | succ fuel ih =>
    cases s with
    | nil => cases fuel' <;> rfl
    | cons c s =>
      obtain ⟨fuel', rfl⟩ : ∃ f, fuel' = f + 1 := ⟨fuel' - 1, by simp at hf'; omega⟩
      obtain ⟨k, hk⟩ : ∃ k, size - 1 = k + 1 := ⟨size - 2, by omega⟩
      have hsplit := congrArg List.length (fgetsTake_append (k + 1) (c :: s))
      have hne := List.length_pos.mpr (fgetsTake_ne_nil k c s)
      simp only [List.length_append, List.length_cons] at hsplit hf hf'
      simp only [fgetsLoop, fgets, List.isEmpty_cons, Bool.false_eq_true, ↓reduceIte, hk]
      rw [ih fuel' _ (by omega) (by omega)]

theorem fgetsLoop_of_le (size : Nat) (hsize : 2 ≤ size) (fuel : Nat) (s : List Char)
    (hf : s.length ≤ fuel) : fgetsLoop size fuel s = lines size s :=
  fgetsLoop_congr size hsize fuel s.length s hf le_rfl

theorem fgets_line (size : Nat) (body rest : List Char) (hb : '\n' ∉ body)
    (hsize : body.length + 2 ≤ size) : fgets size (body ++ '\n' :: rest) = some (body ++ ['\n'], rest) := by
  have he : (body ++ '\n' :: rest).isEmpty = false := by cases body <;> rfl
  simp only [fgets, he, Bool.false_eq_true, ↓reduceIte,
    fgetsTake_line body rest (size - 1) hb (by omega)]

theorem lines_line (size : Nat) (body rest : List Char) (hb : '\n' ∉ body)
    (hsize : body.length + 2 ≤ size) :
    lines size (body ++ '\n' :: rest) = (body ++ ['\n']) :: lines size rest := by
  obtain ⟨k, hk⟩ : ∃ k, (body ++ '\n' :: rest).length = k + 1 := ⟨body.length + rest.length, by
    simp; omega⟩
  simp only [lines, hk, fgetsLoop, fgets_line size body rest hb hsize]
  rw [fgetsLoop_of_le size (by omega) k rest (by simp at hk; omega)]
  rfl

theorem fgetsTake_of_le (n : Nat) (body rest : List Char) (hb : '\n' ∉ body) (hn : n ≤ body.length) :
    fgetsTake n (body ++ rest) = (body.take n, body.drop n ++ rest) := by
  induction n generalizing body with
  | zero => rfl
  | succ n ih =>
    obtain ⟨c, b, rfl⟩ := List.exists_cons_of_ne_nil
      (List.ne_nil_of_length_pos (show 0 < body.length by omega))
    have hc : c ≠ '\n' := fun h => hb (h ▸ List.mem_cons_self c b)
    simp only [List.cons_append, fgetsTake, hc, ↓reduceIte, List.take_succ_cons,
      List.drop_succ_cons, List.append_eq, ih b (fun h => hb (List.mem_cons_of_mem c h)) (by simpa using hn)]

theorem lines_of_fgets (size : Nat) (hsize : 2 ≤ size) (s buffer rest : List Char)
    (h : fgets size s = some (buffer, rest)) : lines size s = buffer :: lines size rest := by
  cases s with
  | nil => cases h
  | cons c s =>
    obtain ⟨k, hk⟩ : ∃ k, size - 1 = k + 1 := ⟨size - 2, by omega⟩
    simp only [fgets, List.isEmpty_cons, Bool.false_eq_true, ↓reduceIte, Option.some.injEq] at h
    have hsplit := congrArg List.length (fgetsTake_append (k + 1) (c :: s))
    have hne := List.length_pos.mpr (fgetsTake_ne_nil k c s)
    rw [← hk, h] at hsplit hne
    simp only [List.length_append, List.length_cons] at hsplit hne
    simp only [lines, List.length_cons, fgetsLoop, fgets, List.isEmpty_cons, Bool.false_eq_true,
      ↓reduceIte, h]
    rw [fgetsLoop_of_le size hsize _ rest (by omega)]
    rfl

theorem lines_long_line (size : Nat) (hsize : 2 ≤ size) (body rest : List Char) (hb : '\n' ∉ body) :
    ∃ later, lines size (body ++ '\n' :: rest) =
        (body ++ ['\n']).take (size - 1) :: later ++ lines size rest ∧
      ∀ x ∈ later, ∃ i, size - 1 ≤ i ∧ x.head? = (body ++ ['\n'])[i]? := by
  obtain ⟨n, hlen⟩ : ∃ n, body.length = n := ⟨_, rfl⟩
  induction n using Nat.strong_induction_on generalizing body with
  | _ n ih =>
    by_cases hfit : body.length + 2 ≤ size
    · refine ⟨[], ?_, fun x hx => absurd hx (List.not_mem_nil x)⟩
      rw [lines_line size body rest hb hfit, List.take_of_length_le (by simp; omega)]
      rfl
    · have hf : fgets size (body ++ '\n' :: rest) =
          some (body.take (size - 1), body.drop (size - 1) ++ '\n' :: rest) := by
        have he : (body ++ '\n' :: rest).isEmpty = false := by cases body <;> rfl
        simp only [fgets, he, Bool.false_eq_true, ↓reduceIte,
          fgetsTake_of_le (size - 1) body ('\n' :: rest) hb (by omega)]
      have hb' : '\n' ∉ body.drop (size - 1) := fun h => hb (List.mem_of_mem_drop h)
      obtain ⟨later, he, hlater⟩ := ih (body.drop (size - 1)).length
        (by rw [List.length_drop]; omega) (body.drop (size - 1)) hb' rfl
      have hdrop : (body ++ ['\n']).drop (size - 1) = body.drop (size - 1) ++ ['\n'] :=
        List.drop_append_of_le_length (by omega)
      refine ⟨(body.drop (size - 1) ++ ['\n']).take (size - 1) :: later, ?_, ?_⟩
      · have htake : (body ++ ['\n']).take (size - 1) = body.take (size - 1) :=
          List.take_append_of_le_length (by omega)
        rw [lines_of_fgets size hsize _ _ _ hf, he, htake]
        rfl
      · intro x hx
        rcases List.mem_cons.mp hx with rfl | hx
        · refine ⟨size - 1, le_rfl, ?_⟩
          rw [List.head?_take, if_neg (by omega), ← hdrop, List.head?_drop]
        · obtain ⟨i, hi, hx⟩ := hlater x hx
          refine ⟨size - 1 + i, by omega, ?_⟩
          rw [hx, ← hdrop, List.getElem?_drop]

@[simp] theorem strtok_delim (d : Char) (s : List Char) : strtok d (d :: s) = strtok d s := by
  simp [strtok, List.dropWhile_cons]

@[simp] theorem strtok_replicate (d : Char) (k : Nat) (s : List Char) :
    strtok d (List.replicate k d ++ s) = strtok d s := by
  induction k with
  | zero => rfl
  | succ k ih => simpa [List.replicate_succ] using ih

theorem strtok_token (d : Char) (w rest : List Char) (hw : w ≠ []) (hd : d ∉ w) :
    strtok d (w ++ d :: rest) = (some w, rest) := by
  obtain ⟨c, w', rfl⟩ := List.exists_cons_of_ne_nil hw
  have hc : c ≠ d := fun h => hd (h ▸ List.mem_cons_self c w')
  have hall : ∀ x ∈ c :: w', (x != d) = true := fun x hx => by
    simpa using fun h : x = d => hd (h ▸ hx)
  have hdrop : (c :: (w' ++ d :: rest)).dropWhile (· == d) = c :: (w' ++ d :: rest) :=
    List.dropWhile_cons_of_neg (by simpa using hc)
  simp only [strtok, List.cons_append, hdrop]
  rw [← List.cons_append, List.takeWhile_append_of_pos hall, List.dropWhile_append_of_pos hall]
  simp

theorem toNat_pos {w : Nat} {x : BitVec w} (h : x ≠ 0) : 0 < x.toNat :=
  Nat.pos_of_ne_zero fun h' => h (BitVec.eq_of_toNat_eq (by simp [h']))

theorem toNat_sum {w : Nat} (l : List (BitVec w)) :
    l.sum.toNat = (l.map BitVec.toNat).sum % 2 ^ w := by
  induction l with
  | nil => simp
  | cons x l ih => simp [BitVec.toNat_add, ih, Nat.add_mod]

theorem toNat_sum_of_lt {w : Nat} (l : List (BitVec w)) (h : (l.map BitVec.toNat).sum < 2 ^ w) :
    l.sum.toNat = (l.map BitVec.toNat).sum := by
  rw [toNat_sum, Nat.mod_eq_of_lt h]

theorem digitsValue_append (l : List Char) (c : Char) :
    digitsValue (l ++ [c]) = 10 * digitsValue l + (c.toNat - '0'.toNat) := by
  simp [digitsValue, List.foldl_append]

theorem digitsValue_foldl (m : List Char) (n : Nat) :
    m.foldl (fun n c => 10 * n + (c.toNat - '0'.toNat)) n = n * 10 ^ m.length + digitsValue m := by
  induction m generalizing n with
  | nil => simp [digitsValue]
  | cons c m ih =>
    have hcons : digitsValue (c :: m) = (c.toNat - '0'.toNat) * 10 ^ m.length + digitsValue m := by
      rw [digitsValue, List.foldl_cons, ih]
      ring
    rw [List.foldl_cons, ih, hcons, List.length_cons]
    ring

theorem digitsValue_append_digits (l m : List Char) :
    digitsValue (l ++ m) = digitsValue l * 10 ^ m.length + digitsValue m := by
  rw [digitsValue, List.foldl_append, digitsValue_foldl]
  rfl

theorem digitChar_digit : ∀ d < 10, (Nat.digitChar d).isDigit = true ∧
    (Nat.digitChar d).toNat - '0'.toNat = d := by
  decide

theorem digitsValue_digits (ds : List Nat) (h : ∀ d ∈ ds, d < 10) :
    digitsValue (ds.reverse.map Nat.digitChar) = Nat.ofDigits 10 ds := by
  induction ds with
  | nil => rfl
  | cons d ds ih =>
    simp only [List.reverse_cons, List.map_append, List.map_singleton, digitsValue_append,
      Nat.ofDigits_cons, ih (fun x hx => h x (List.mem_cons_of_mem d hx)),
      (digitChar_digit d (h d (List.mem_cons_self d ds))).2]
    ring

theorem decimal_isDigit (n : Nat) : ∀ c ∈ decimal n, c.isDigit = true := by
  unfold decimal
  split
  · decide
  · simp only [List.mem_map, List.mem_reverse]
    rintro c ⟨d, hd, rfl⟩
    exact (digitChar_digit d (Nat.digits_lt_base (by norm_num) hd)).1

theorem decimal_ne_nil (n : Nat) : decimal n ≠ [] := by
  unfold decimal
  split
  · simp
  · simpa using Nat.digits_ne_nil_iff_ne_zero.mpr ‹_›

theorem decimal_length_le (n : Nat) : (decimal n).length ≤ n + 1 := by
  unfold decimal
  split
  · simp
  · rw [List.length_map, List.length_reverse, Nat.digits_len 10 n (by norm_num) ‹_›]
    exact Nat.succ_le_succ (Nat.log_le_self 10 n)

theorem decimal_length_le_of_lt (n k : Nat) (hk : 0 < k) (h : n < 10 ^ k) :
    (decimal n).length ≤ k := by
  unfold decimal
  split
  · simpa using hk
  · rw [List.length_map, List.length_reverse, Nat.digits_len 10 n (by norm_num) ‹_›]
    exact Nat.log_lt_of_lt_pow ‹_› h

theorem decimal_toNat_length_le (v : BitVec 64) : (decimal v.toNat).length ≤ 20 :=
  decimal_length_le_of_lt _ _ (by norm_num) (lt_trans v.isLt (by norm_num))

theorem decimal_of_lt (n : Nat) (h : n < 10) : decimal n = [n.digitChar] := by
  unfold decimal
  split
  · next h0 => rw [h0]; rfl
  · next h0 => rw [Nat.digits_of_lt 10 n h0 h]; rfl

theorem digitsValue_decimal (n : Nat) : digitsValue (decimal n) = n := by
  unfold decimal
  split
  · subst n; rfl
  · rw [digitsValue_digits _ (fun d hd => Nat.digits_lt_base (by norm_num) hd),
      Nat.ofDigits_digits]

theorem takeWhile_of_head (p : Char → Bool) (rest : List Char)
    (hr : ∀ c ∈ rest.head?, p c = false) : rest.takeWhile p = [] := by
  cases rest with
  | nil => rfl
  | cons c rest => simp [hr c rfl]

theorem dropWhile_of_head (p : Char → Bool) (rest : List Char)
    (hr : ∀ c ∈ rest.head?, p c = false) : rest.dropWhile p = rest := by
  cases rest with
  | nil => rfl
  | cons c rest => simp [hr c rfl]

theorem scanDigits_decimal (n : Nat) (rest : List Char) (hr : ∀ c ∈ rest.head?, c.isDigit = false) :
    scanDigits (decimal n ++ rest) = some (n, rest) := by
  obtain ⟨c, cs, hc⟩ := List.exists_cons_of_ne_nil (decimal_ne_nil n)
  unfold scanDigits
  rw [List.takeWhile_append_of_pos (decimal_isDigit n), takeWhile_of_head _ _ hr, List.append_nil,
    List.dropWhile_append_of_pos (decimal_isDigit n), dropWhile_of_head _ _ hr, hc]
  simp only [← hc, digitsValue_decimal]

theorem scanInteger_digit (c : Char) (s : List Char) (hc : c.isDigit = true) :
    scanInteger (c :: s) = (scanDigits (c :: s)).map fun (n, r) => (false, n, r) := by
  have h1 : c ≠ '-' := by rintro rfl; exact absurd hc (by decide)
  have h2 : c ≠ '+' := by rintro rfl; exact absurd hc (by decide)
  unfold scanInteger
  split <;> simp_all

theorem scanInteger_decimal (n : Nat) (rest : List Char) (hr : ∀ c ∈ rest.head?, c.isDigit = false) :
    scanInteger (decimal n ++ rest) = some (false, n, rest) := by
  obtain ⟨c, cs, hc⟩ := List.exists_cons_of_ne_nil (decimal_ne_nil n)
  have hdig : c.isDigit = true := decimal_isDigit n c (by simp [hc])
  have hscan := scanDigits_decimal n rest hr
  rw [hc, List.cons_append] at hscan ⊢
  rw [scanInteger_digit c _ hdig, hscan]
  rfl

theorem isspace_of_isDigit {c : Char} (h : c.isDigit = true) : isspace c = false := by
  cases hs : isspace c
  · rfl
  · simp only [isspace, Bool.or_eq_true, beq_iff_eq] at hs
    rcases hs with ((((h1 | h1) | h1) | h1) | h1) | h1 <;> subst h1 <;> exact absurd h (by decide)

theorem strtoul_decimal_append (v : BitVec 64) (rest : List Char)
    (hr : ∀ c ∈ rest.head?, c.isDigit = false) : strtoul (decimal v.toNat ++ rest) = v := by
  have hdrop : (decimal v.toNat ++ rest).dropWhile isspace = decimal v.toNat ++ rest :=
    dropWhile_of_head _ _ fun c hc => by
      rw [List.head?_append_of_ne_nil _ (decimal_ne_nil _)] at hc
      exact isspace_of_isDigit (decimal_isDigit _ c (List.mem_of_mem_head? hc))
  simp only [strtoul, hdrop, scanInteger_decimal v.toNat rest hr, toUnsigned, Bool.false_eq_true,
    ↓reduceIte, not_le.mpr v.isLt, BitVec.ofNat_toNat, BitVec.setWidth_eq]

theorem strtoul_decimal (v : BitVec 64) : strtoul (decimal v.toNat) = v := by
  simpa using strtoul_decimal_append v [] (by simp)

theorem strtok_last (d : Char) (w : List Char) (hw : w ≠ []) (hd : d ∉ w) :
    strtok d w = (some w, []) := by
  obtain ⟨c, w', rfl⟩ := List.exists_cons_of_ne_nil hw
  have hall : ∀ x ∈ c :: w', (x != d) = true := fun x hx => by
    simpa using fun h : x = d => hd (h ▸ hx)
  have hdrop : (c :: w').dropWhile (· == d) = c :: w' :=
    List.dropWhile_cons_of_neg (by simpa using hall c (List.mem_cons_self c w'))
  simp only [strtok, hdrop, List.takeWhile_eq_self_iff.mpr hall, List.dropWhile_eq_nil_iff.mpr hall]
  rfl

def TokensFrom (d : Char) (rest : List Char) : List (List Char) → Prop
  | [] => strtok d rest = (none, [])
  | t :: toks => ∃ rest', strtok d rest = (some t, rest') ∧ TokensFrom d rest' toks

theorem tokensFrom_congr (d : Char) {r r' : List Char} (h : strtok d r = strtok d r')
    (toks : List (List Char)) : TokensFrom d r toks ↔ TokensFrom d r' toks := by
  cases toks <;> simp only [TokensFrom, h]

theorem tokensFrom_cons (d : Char) (w rest : List Char) (toks : List (List Char)) (hw : w ≠ [])
    (hd : d ∉ w) (h : TokensFrom d rest toks) : TokensFrom d (w ++ d :: rest) (w :: toks) :=
  ⟨rest, strtok_token d w rest hw hd, h⟩

theorem tokensFrom_last (d : Char) (w : List Char) (hw : w ≠ []) (hd : d ∉ w) :
    TokensFrom d w [w] :=
  ⟨[], strtok_last d w hw hd, rfl⟩

theorem tokensFrom_pad_cons (d : Char) (k : Nat) (w rest : List Char) (toks : List (List Char))
    (hw : w ≠ []) (hd : d ∉ w) (h : TokensFrom d rest toks) :
    TokensFrom d (List.replicate k d ++ (w ++ d :: rest)) (w :: toks) :=
  (tokensFrom_congr d (strtok_replicate d k _) _).2 (tokensFrom_cons d w rest toks hw hd h)

theorem strtok_length_lt (d : Char) (s t r : List Char) (h : strtok d s = (some t, r)) :
    r.length < s.length := by
  unfold strtok at h
  split at h
  · cases h
  · next _ hne =>
    obtain ⟨-, rfl⟩ := Prod.mk.inj h
    have h1 := (List.dropWhile_suffix (· != d) (l := s.dropWhile (· == d))).length_le
    have h2 := (List.dropWhile_suffix (· == d) (l := s)).length_le
    have h3 := List.length_pos.mpr hne
    simp only [List.length_drop]
    omega

theorem tokensFrom_length_le (d : Char) (rest : List Char) (toks : List (List Char))
    (h : TokensFrom d rest toks) : toks.length ≤ rest.length := by
  induction toks generalizing rest with
  | nil => exact Nat.zero_le _
  | cons t toks ih =>
    obtain ⟨r, hs, hr⟩ := h
    have := strtok_length_lt d rest t r hs
    have := ih r hr
    simp only [List.length_cons]
    omega

theorem infix_of_infix_append_left {α : Type} {x A R : List α} (hx : x ≠ [])
    (hA : ∀ c ∈ x, c ∉ A) (h : x <:+: A ++ R) : x <:+: R := by
  obtain ⟨s, t, e⟩ := h
  rw [List.append_assoc, List.append_eq_append_iff] at e
  rcases e with ⟨a', rfl, e⟩ | ⟨c', rfl, rfl⟩
  · cases a' with
    | nil => exact ⟨[], t, by simpa using e⟩
    | cons a a' =>
      obtain ⟨y, ys, rfl⟩ := List.exists_cons_of_ne_nil hx
      obtain rfl : y = a := (List.cons.inj e).1
      exact absurd (List.mem_append_right s (List.mem_cons_self y a')) (hA y (List.mem_cons_self y ys))
  · exact ⟨c', t, by simp⟩

theorem infix_middle_iff {α : Type} {x A D B : List α} (hx : x ≠ []) (hA : ∀ c ∈ x, c ∉ A)
    (hB : ∀ c ∈ x, c ∉ B) : x <:+: A ++ D ++ B ↔ x <:+: D := by
  refine ⟨fun h => ?_, fun h => h.trans (List.infix_append A D B)⟩
  have hDB := infix_of_infix_append_left hx hA (by rwa [List.append_assoc] at h)
  rw [← List.reverse_infix, List.reverse_append] at hDB
  exact List.reverse_infix.mp (infix_of_infix_append_left (by simpa using hx)
    (fun c hc => by simpa using hB c (List.mem_reverse.mp hc)) hDB)

end SistemaMonitoreo.LibC
