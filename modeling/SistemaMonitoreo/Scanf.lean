import SistemaMonitoreo.LibC
import Mathlib.Algebra.Order.Field.Rat

namespace SistemaMonitoreo.Scanf

open LibC

/-- The conversions that the program's format strings use. -/
inductive Conv
  | llu | zu | d | lf | s
  deriving DecidableEq, Repr

inductive Directive
  | space
  | lit (c : Char)
  | conv (k : Conv)
  deriving DecidableEq, Repr

/-- The directives of a format string: white space, ordinary characters and conversions. -/
def format : List Char → List Directive
  | [] => []
  | '%' :: 'l' :: 'l' :: 'u' :: r => .conv .llu :: format r
  | '%' :: 'z' :: 'u' :: r => .conv .zu :: format r
  | '%' :: 'l' :: 'f' :: r => .conv .lf :: format r
  | '%' :: 'd' :: r => .conv .d :: format r
  | '%' :: 's' :: r => .conv .s :: format r
  | c :: r => (if isspace c then .space else .lit c) :: format r

/-- A value stored through one of the pointer arguments; doubles are exact rationals. -/
inductive Value
  | u64 (v : BitVec 64)
  | int (v : Int)
  | dbl (v : ℚ)
  | str (v : List Char)
  deriving DecidableEq

def Value.u64? : Value → Option (BitVec 64)
  | .u64 v => some v
  | _ => none

def Value.int? : Value → Option Int
  | .int v => some v
  | _ => none

def Value.dbl? : Value → Option ℚ
  | .dbl v => some v
  | _ => none

def Value.str? : Value → Option (List Char)
  | .str v => some v
  | _ => none

def toInt (neg : Bool) (n : Nat) : Int :=
  Int.bmod (max (-2 ^ 63) (min (2 ^ 63 - 1) (if neg then -(n : Int) else n))) (2 ^ 32)

def scanExponent : List Char → Int × List Char
  | [] => (0, [])
  | e :: s =>
    match (e = 'e' ∨ e = 'E' : Bool), scanInteger s with
    | true, some (neg, n, r) => (if neg then -(n : Int) else n, r)
    | _, _ => (0, e :: s)

def pow10 (k : Int) : ℚ := if 0 ≤ k then 10 ^ k.toNat else 1 / 10 ^ (-k).toNat

def scanSign : List Char → Bool × List Char
  | '-' :: r => (true, r)
  | '+' :: r => (false, r)
  | r => (false, r)

/-- `%lf` on decimal notation: a sign, digits with an optional point and at least one digit,
and an optional exponent. -/
def scanFloat (s : List Char) : Option (ℚ × List Char) :=
  let (neg, s) := scanSign s
  let ip := s.takeWhile Char.isDigit
  let (fp, s) := match s.dropWhile Char.isDigit with
    | '.' :: r => (r.takeWhile Char.isDigit, r.dropWhile Char.isDigit)
    | r => ([], r)
  if ip.isEmpty && fp.isEmpty then none else
    let (e, s) := scanExponent s
    let m : ℚ := digitsValue (ip ++ fp)
    some ((if neg then -m else m) * pow10 (e - fp.length), s)

/-- One conversion on input whose leading white space is already skipped. -/
def scanConv : Conv → List Char → Option (Value × List Char)
  | .llu, s | .zu, s => (scanInteger s).map fun (neg, n, r) => (.u64 (toUnsigned neg n), r)
  | .d, s => (scanInteger s).map fun (neg, n, r) => (.int (toInt neg n), r)
  | .lf, s => (scanFloat s).map fun (q, r) => (.dbl q, r)
  | .s, s =>
    match s.takeWhile (fun c => !isspace c) with
    | [] => none
    | w => some (.str w, s.dropWhile (fun c => !isspace c))

/-- The values `sscanf` stores, in order: the call returns their number. A white-space directive
skips any white space, an ordinary character must match, every conversion skips white space
first, and the first failure ends the scan. -/
def sscanf : List Char → List Directive → List Value
  | _, [] => []
  | s, .space :: ds => sscanf (s.dropWhile isspace) ds
  | [], .lit _ :: _ => []
  | c :: s, .lit c' :: ds => if c = c' then sscanf s ds else []
  | s, .conv k :: ds =>
    match scanConv k (s.dropWhile isspace) with
    | none => []
    | some (v, r) => v :: sscanf r ds

theorem sscanf_length_le (s : List Char) (ds : List Directive) :
    (sscanf s ds).length ≤ (ds.filter fun d => d matches .conv _).length := by
  induction ds generalizing s with
  | nil =>
    rw [sscanf]
    exact Nat.zero_le _
  | cons d ds ih =>
    cases d with
    | space =>
      rw [sscanf, List.filter_cons_of_neg Bool.false_ne_true]
      exact ih _
    | lit c =>
      rw [List.filter_cons_of_neg Bool.false_ne_true]
      cases s with
      | nil => exact Nat.zero_le _
      | cons c' s =>
        rw [sscanf]
        split
        · exact ih s
        · exact Nat.zero_le _
    | conv k =>
      rw [sscanf, List.filter_cons_of_pos rfl, List.length_cons]
      split
      · exact Nat.zero_le _
      · exact Nat.succ_le_succ (ih _)

theorem sscanf_lit (c : Char) (s : List Char) (ds : List Directive) :
    sscanf (c :: s) (.lit c :: ds) = sscanf s ds := by
  simp only [sscanf, ↓reduceIte]

theorem sscanf_space_cons (s : List Char) (ds : List Directive) :
    sscanf (' ' :: s) (.space :: ds) = sscanf s (.space :: ds) := by
  simp only [sscanf, List.dropWhile_cons_of_pos (by decide : isspace ' ' = true)]

theorem sscanf_space_of_head (s : List Char) (ds : List Directive)
    (h : ∀ c ∈ s.head?, isspace c = false) : sscanf s (.space :: ds) = sscanf s ds := by
  rw [sscanf, dropWhile_of_head _ _ h]

example : sscanf "cpu  10 0 5 300 2 0 1 0\n".toList
    (format "cpu  %llu %llu %llu %llu %llu %llu %llu %llu".toList) =
    [.u64 10, .u64 0, .u64 5, .u64 300, .u64 2, .u64 0, .u64 1, .u64 0] := by
  decide

theorem toInt_of_lt (n : Nat) (h : n < 2 ^ 31) : toInt false n = n := by
  simp only [toInt, Bool.false_eq_true, ↓reduceIte, Int.bmod]
  split_ifs <;> omega

theorem scanConv_d_decimal (n : Nat) (rest : List Char) (hn : n < 2 ^ 31)
    (hr : ∀ c ∈ rest.head?, c.isDigit = false) :
    scanConv .d (decimal n ++ rest) = some (.int n, rest) := by
  simp only [scanConv, scanInteger_decimal n rest hr, Option.map_some', toInt_of_lt n hn]

theorem scanConv_zu_decimal (n : Nat) (rest : List Char) (hn : n < 2 ^ 64)
    (hr : ∀ c ∈ rest.head?, c.isDigit = false) :
    scanConv .zu (decimal n ++ rest) = some (.u64 (BitVec.ofNat 64 n), rest) := by
  simp only [scanConv, scanInteger_decimal n rest hr, Option.map_some', toUnsigned,
    not_le.mpr hn, ↓reduceIte, Bool.false_eq_true]

theorem scanConv_s_word (w rest : List Char) (hw : w ≠ []) (hsp : ∀ c ∈ w, isspace c = false)
    (hr : ∀ c ∈ rest.head?, isspace c = true) : scanConv .s (w ++ rest) = some (.str w, rest) := by
  have hr' : ∀ c ∈ rest.head?, (!isspace c) = false := fun c hc => by simp [hr c hc]
  have hsp' : ∀ c ∈ w, (!isspace c) = true := fun c hc => by simp [hsp c hc]
  obtain ⟨c, cs, rfl⟩ := List.exists_cons_of_ne_nil hw
  simp only [scanConv, List.takeWhile_append_of_pos hsp', takeWhile_of_head _ _ hr',
    List.append_nil, List.dropWhile_append_of_pos hsp', dropWhile_of_head _ _ hr']

/-- A number with a decimal point, as `printf` writes a `double` and `%lf` reads it. -/
structure Fixed where
  whole : Nat
  frac : List Char
  frac_digits : ∀ c ∈ frac, c.isDigit = true

def Fixed.text (x : Fixed) : List Char := decimal x.whole ++ '.' :: x.frac

def Fixed.value (x : Fixed) : ℚ := x.whole + (digitsValue x.frac : ℚ) / 10 ^ x.frac.length

theorem pow10_sub (k : Nat) : pow10 (0 - k) = 1 / 10 ^ k := by
  cases k with
  | zero => simp [pow10]
  | succ k =>
    have hk : ¬ (0 : Int) ≤ 0 - (k + 1 : Nat) := by omega
    simp only [pow10, hk, ↓reduceIte]
    norm_cast

theorem scanSign_digit (c : Char) (s : List Char) (hc : c.isDigit = true) :
    scanSign (c :: s) = (false, c :: s) := by
  have h1 : c ≠ '-' := by rintro rfl; exact absurd hc (by decide)
  have h2 : c ≠ '+' := by rintro rfl; exact absurd hc (by decide)
  unfold scanSign
  split <;> simp_all

theorem scanFloat_fixed (x : Fixed) (rest : List Char)
    (hr : ∀ c ∈ rest.head?, c.isDigit = false ∧ c ≠ 'e' ∧ c ≠ 'E') :
    scanFloat (x.text ++ rest) = some (x.value, rest) := by
  obtain ⟨c, cs, hc⟩ := List.exists_cons_of_ne_nil (decimal_ne_nil x.whole)
  have hdig : c.isDigit = true := decimal_isDigit x.whole c (by simp [hc])
  have hdigit : ∀ c ∈ rest.head?, c.isDigit = false := fun c h => (hr c h).1
  have htext : x.text ++ rest = decimal x.whole ++ '.' :: (x.frac ++ rest) := by
    simp [Fixed.text]
  have hexp : scanExponent rest = (0, rest) := by
    cases rest with
    | nil => rfl
    | cons e rest =>
      obtain ⟨-, he, hE⟩ := hr e rfl
      simp [scanExponent, he, hE]
  have hsign : scanSign (decimal x.whole ++ '.' :: (x.frac ++ rest)) =
      (false, decimal x.whole ++ '.' :: (x.frac ++ rest)) := by
    rw [hc, List.cons_append]
    exact scanSign_digit c _ hdig
  unfold scanFloat
  rw [htext]
  simp only [hsign, List.takeWhile_append_of_pos (decimal_isDigit _),
    List.dropWhile_append_of_pos (decimal_isDigit _), List.takeWhile_cons_of_neg (by decide : ¬ ('.').isDigit = true),
    List.dropWhile_cons_of_neg (by decide : ¬ ('.').isDigit = true), List.append_nil,
    List.takeWhile_append_of_pos x.frac_digits, List.dropWhile_append_of_pos x.frac_digits,
    takeWhile_of_head _ _ hdigit, dropWhile_of_head _ _ hdigit, hexp]
  have hne : (decimal x.whole).isEmpty = false := by rw [hc]; rfl
  simp only [hne, Bool.false_and, Bool.false_eq_true, ↓reduceIte, digitsValue_append_digits,
    digitsValue_decimal, pow10_sub, Fixed.value, Option.some.injEq, Prod.mk.injEq, and_true]
  push_cast
  rw [add_mul, mul_assoc, mul_one_div_cancel (pow_ne_zero _ (by norm_num)), mul_one, mul_one_div]

theorem scanConv_lf_fixed (x : Fixed) (rest : List Char)
    (hr : ∀ c ∈ rest.head?, c.isDigit = false ∧ c ≠ 'e' ∧ c ≠ 'E') :
    scanConv .lf (x.text ++ rest) = some (.dbl x.value, rest) := by
  simp only [scanConv, scanFloat_fixed x rest hr, Option.map_some']

/-- The text of one field that conversion `k` reads back as `v`, up to the white space or the
end of input after it. -/
structure Reads (k : Conv) (field : List Char) (v : Value) : Prop where
  ne_nil : field ≠ []
  head : ∀ c ∈ field.head?, isspace c = false
  scan : ∀ rest, (∀ c ∈ rest.head?, isspace c = true) → scanConv k (field ++ rest) = some (v, rest)

theorem isDigit_of_isspace {c : Char} (h : isspace c = true) : c.isDigit = false := by
  cases hd : c.isDigit
  · rfl
  · exact absurd h (by simp [isspace_of_isDigit hd])

theorem decimal_head (n : Nat) : ∀ c ∈ (decimal n).head?, isspace c = false :=
  fun c hc => isspace_of_isDigit (decimal_isDigit n c (List.mem_of_mem_head? hc))

theorem reads_word (w : List Char) (hw : w ≠ []) (hsp : ∀ c ∈ w, isspace c = false) :
    Reads .s w (.str w) :=
  ⟨hw, fun c hc => hsp c (List.mem_of_mem_head? hc), fun rest hr => scanConv_s_word w rest hw hsp hr⟩

theorem reads_d_decimal (n : Nat) (hn : n < 2 ^ 31) : Reads .d (decimal n) (.int n) :=
  ⟨decimal_ne_nil n, decimal_head n, fun rest hr =>
    scanConv_d_decimal n rest hn fun c hc => isDigit_of_isspace (hr c hc)⟩

theorem reads_d_toInt (n : Nat) : Reads .d (decimal n) (.int (toInt false n)) :=
  ⟨decimal_ne_nil n, decimal_head n, fun rest hr => by
    simp only [scanConv, scanInteger_decimal n rest fun c hc => isDigit_of_isspace (hr c hc),
      Option.map_some']⟩

theorem reads_zu_decimal (n : Nat) (hn : n < 2 ^ 64) :
    Reads .zu (decimal n) (.u64 (BitVec.ofNat 64 n)) :=
  ⟨decimal_ne_nil n, decimal_head n, fun rest hr =>
    scanConv_zu_decimal n rest hn fun c hc => isDigit_of_isspace (hr c hc)⟩

theorem reads_llu_decimal (v : BitVec 64) : Reads .llu (decimal v.toNat) (.u64 v) :=
  ⟨decimal_ne_nil _, decimal_head _, fun rest hr => by
    simp only [scanConv, scanInteger_decimal _ rest fun c hc => isDigit_of_isspace (hr c hc),
      Option.map_some', toUnsigned, not_le.mpr v.isLt, ↓reduceIte, Bool.false_eq_true,
      BitVec.ofNat_toNat, BitVec.setWidth_eq]⟩

theorem reads_lf_fixed (x : Fixed) : Reads .lf x.text (.dbl x.value) := by
  refine ⟨by simp [Fixed.text], fun c hc => ?_, fun rest hr => scanConv_lf_fixed x rest ?_⟩
  · obtain ⟨d, ds, hd⟩ := List.exists_cons_of_ne_nil (decimal_ne_nil x.whole)
    simp only [Fixed.text, hd, List.cons_append, List.head?_cons, Option.mem_def,
      Option.some.injEq] at hc
    exact hc ▸ decimal_head x.whole d (by simp [hd])
  · intro c hc
    have hs := hr c hc
    refine ⟨isDigit_of_isspace hs, ?_, ?_⟩ <;> rintro rfl <;> exact absurd hs (by decide)

theorem Reads.head_append {k : Conv} {field : List Char} {v : Value} (h : Reads k field v)
    (more : List Char) : ∀ c ∈ (field ++ more).head?, isspace c = false := by
  obtain ⟨c, cs, rfl⟩ := List.exists_cons_of_ne_nil h.ne_nil
  exact fun d hd => h.head d (by simpa using hd)

theorem sscanf_reads_space {k : Conv} {field : List Char} {v : Value} (h : Reads k field v)
    (more : List Char) (hm : ∀ c ∈ more.head?, isspace c = false) (ds : List Directive) :
    sscanf (field ++ ' ' :: more) (.conv k :: .space :: ds) = v :: sscanf more ds := by
  have hdrop := dropWhile_of_head isspace _ (h.head_append (' ' :: more))
  simp only [sscanf, hdrop, h.scan (' ' :: more) (fun c hc => by simp at hc; simp [← hc, isspace]),
    List.dropWhile_cons_of_pos (by decide : isspace ' ' = true), dropWhile_of_head _ _ hm]

theorem sscanf_reads_last {k : Conv} {field : List Char} {v : Value} (h : Reads k field v)
    (suffix : List Char) (hs : ∀ c ∈ suffix.head?, isspace c = true) :
    sscanf (field ++ suffix) [.conv k] = [v] := by
  simp only [sscanf, dropWhile_of_head isspace _ (h.head_append suffix), h.scan suffix hs]

theorem sscanf_lits (w s : List Char) (ds : List Directive) :
    sscanf s (w.map .lit ++ ds) = if w <+: s then sscanf (s.drop w.length) ds else [] := by
  induction w generalizing s with
  | nil => simp
  | cons c w ih =>
    cases s with
    | nil => simp [sscanf]
    | cons c' s =>
      simp only [List.map_cons, List.cons_append, sscanf, List.cons_prefix_cons, ih,
        List.length_cons, List.drop_succ_cons]
      by_cases h : c' = c
      · simp [h, ih]
      · simp [h, Ne.symm h]

theorem sscanf_nil_of_no_conv (s : List Char) (ds : List Directive)
    (h : ∀ d ∈ ds, ¬ d matches .conv _) : sscanf s ds = [] := by
  have := sscanf_length_le s ds
  rw [List.filter_eq_nil_iff.mpr fun d hd => by simpa using h d hd] at this
  exact List.eq_nil_of_length_eq_zero (Nat.le_zero.mp this)


theorem sscanf_reads_cons {k : Conv} {field : List Char} {v : Value} (h : Reads k field v)
    (suffix : List Char) (hs : ∀ c ∈ suffix.head?, isspace c = true) (ds : List Directive) :
    sscanf (field ++ suffix) (.conv k :: ds) = v :: sscanf suffix ds := by
  simp only [sscanf, dropWhile_of_head isspace _ (h.head_append suffix), h.scan suffix hs]

end SistemaMonitoreo.Scanf
