import Mathlib.Algebra.Order.Ring.Nat
import Mathlib.Data.Nat.Digits.Defs
import Mathlib.Tactic.Common

/-!
# Upper-case hexadecimal text

Bytes as pairs of digits. Since only the upper-case digits are accepted, a byte list has
one text and a text has one byte list: `decode_eq_some` says that `decode` and `encode`
are inverse to each other, and `exists_encode` that every text of digits of even length
is decoded. `ungroup_eq_some` and `exists_group` say the same of groups of bytes with a
separator between them.
-/

namespace HexText

/-- The digit for a number below sixteen. -/
def digit (n : ℕ) : Char := if n < 10 then Char.ofNat (0x30 + n) else Char.ofNat (0x41 + n - 10)

/-- The character is an upper-case digit. -/
def IsDigit (c : Char) : Prop := (48 ≤ c.toNat ∧ c.toNat ≤ 57) ∨ (65 ≤ c.toNat ∧ c.toNat ≤ 70)

instance (c : Char) : Decidable (IsDigit c) := inferInstanceAs (Decidable (_ ∨ _))

/-- The number that a digit stands for. -/
def value (c : Char) : Option ℕ :=
  if 48 ≤ c.toNat ∧ c.toNat ≤ 57 then some (c.toNat - 48)
  else if 65 ≤ c.toNat ∧ c.toNat ≤ 70 then some (c.toNat - 55)
  else none

/-- The two digits of a byte. -/
def byte (b : UInt8) : List Char := [digit (b.toNat / 16), digit (b.toNat % 16)]

def encode (bs : List UInt8) : List Char := bs.flatMap byte

def decode : List Char → Option (List UInt8)
  | [] => some []
  | [_] => none
  | c :: d :: cs =>
    match value c, value d with
    | some m, some n => (decode cs).map fun bs => UInt8.ofNat (16 * m + n) :: bs
    | _, _ => none

/-- `%0wX`, for a width that is not zero: at least `w` digits. -/
def format (w n : ℕ) : List Char := ((Nat.digits 16 n).reverse.map digit).leftpad w '0'

/-! ### Digits -/

theorem value_digit : ∀ {n : ℕ}, n < 16 → value (digit n) = some n := by
  have h : ∀ n < 16, value (digit n) = some n := by decide
  exact fun {n} hn => h n hn

theorem isDigit_digit : ∀ {n : ℕ}, n < 16 → IsDigit (digit n) := by
  have h : ∀ n < 16, IsDigit (digit n) := by decide
  exact fun {n} hn => h n hn

/-- A digit is the one that its value is written with. -/
theorem value_eq_some {c : Char} {n : ℕ} : value c = some n ↔ n < 16 ∧ digit n = c := by
  constructor
  · intro h
    unfold value at h
    split at h
    · next hc =>
      obtain rfl := Option.some.inj h
      refine ⟨by omega, ?_⟩
      rw [digit, if_pos (by omega), Nat.add_sub_cancel' hc.1, Char.ofNat_toNat]
    · split at h
      · next hc =>
        obtain rfl := Option.some.inj h
        have hcode : 0x41 + (c.toNat - 55) - 10 = c.toNat := by omega
        refine ⟨by omega, ?_⟩
        rw [digit, if_neg (by omega), hcode, Char.ofNat_toNat]
      · exact nomatch h
  · rintro ⟨hn, rfl⟩
    exact value_digit hn

theorem IsDigit.exists_value {c : Char} (h : IsDigit c) : ∃ n, value c = some n := by
  unfold value
  obtain hc | hc := h
  · exact ⟨c.toNat - 48, if_pos hc⟩
  · refine ⟨c.toNat - 55, ?_⟩
    rw [if_neg (by omega), if_pos hc]

/-! ### Bytes -/

theorem length_byte (b : UInt8) : (byte b).length = 2 := rfl

@[simp] theorem encode_nil : encode [] = [] := rfl

theorem encode_cons (b : UInt8) (bs : List UInt8) : encode (b :: bs) = byte b ++ encode bs := rfl

theorem length_encode (bs : List UInt8) : (encode bs).length = 2 * bs.length := by
  induction bs with
  | nil => rfl
  | cons b bs ih =>
    rw [encode_cons, List.length_append, length_byte, ih, List.length_cons]
    ring

theorem isDigit_of_mem_encode {c : Char} {bs : List UInt8} (h : c ∈ encode bs) : IsDigit c := by
  obtain ⟨b, -, hc⟩ := List.mem_flatMap.mp h
  have hb := b.toNat_lt
  obtain rfl | hc := List.mem_cons.mp hc
  · exact isDigit_digit (by omega)
  · obtain rfl := List.mem_singleton.mp hc
    exact isDigit_digit (by omega)

/-- The text of a byte has its value. -/
theorem decode_byte_append (b : UInt8) (cs : List Char) :
    decode (byte b ++ cs) = (decode cs).map (b :: ·) := by
  have hb := b.toNat_lt
  have hvalue : 16 * (b.toNat / 16) + b.toNat % 16 = b.toNat := Nat.div_add_mod b.toNat 16
  show (match value (digit (b.toNat / 16)), value (digit (b.toNat % 16)) with
    | some m, some n => (decode cs).map fun bs => UInt8.ofNat (16 * m + n) :: bs
    | _, _ => none) = _
  rw [value_digit (by omega), value_digit (by omega)]
  dsimp only
  rw [hvalue, UInt8.ofNat_toNat]

/-- Two digits are the text of a byte. -/
theorem byte_of_values {c d : Char} {m n : ℕ} (hc : value c = some m) (hd : value d = some n) :
    byte (UInt8.ofNat (16 * m + n)) = [c, d] := by
  obtain ⟨hm, rfl⟩ := value_eq_some.mp hc
  obtain ⟨hn, rfl⟩ := value_eq_some.mp hd
  have hnat : (UInt8.ofNat (16 * m + n)).toNat = 16 * m + n :=
    UInt8.toNat_ofNat_of_lt' (by rw [UInt8.size]; omega)
  have hhigh : (16 * m + n) / 16 = m := by omega
  have hlow : (16 * m + n) % 16 = n := by omega
  rw [byte, hnat, hhigh, hlow]

/-- `%02X` writes a byte as its two digits. -/
theorem format_byte (b : UInt8) : format 2 b.toNat = byte b := by
  have hb := b.toNat_lt
  unfold format byte
  generalize b.toNat = n at hb
  obtain rfl | hpos := Nat.eq_zero_or_pos n
  · rfl
  · rw [Nat.digits_def' (by norm_num) hpos]
    obtain hzero | hhigh := Nat.eq_zero_or_pos (n / 16)
    · -- one digit, and one of padding
      rw [hzero, Nat.digits_zero]
      rfl
    · have hlt : n / 16 < 16 := by omega
      rw [Nat.digits_of_lt 16 (n / 16) hhigh.ne' hlt]
      rfl

/-! ### Texts -/

/-- **Round trip.** A text is decoded to the bytes that it is the text of, and to no
others. -/
theorem decode_eq_some {cs : List Char} {bs : List UInt8} :
    decode cs = some bs ↔ encode bs = cs := by
  constructor
  · intro h
    -- two characters at a time, as `decode` reads them
    induction cs using decode.induct generalizing bs with
    | case1 =>
      obtain rfl := Option.some.inj h
      rfl
    | case2 c => exact nomatch h
    | case3 c d cs n m hd hc ih =>
      rw [decode, hc, hd] at h
      obtain ⟨bs', hrest, rfl⟩ := Option.map_eq_some_iff.mp h
      rw [encode_cons, byte_of_values hc hd, ih hrest]
      rfl
    | case4 c d cs hnone =>
      rw [decode] at h
      split at h
      · next m n hc hd => exact absurd hd (hnone m n hc)
      · exact nomatch h
  · rintro rfl
    induction bs with
    | nil => rfl
    | cons b bs ih => rw [encode_cons, decode_byte_append, ih, Option.map_some]

theorem decode_encode (bs : List UInt8) : decode (encode bs) = some bs := decode_eq_some.mpr rfl

theorem encode_injective : Function.Injective encode := by
  intro bs bs' h
  exact Option.some.inj ((decode_encode bs).symm.trans (h ▸ decode_encode bs'))

theorem byte_injective : Function.Injective byte := by
  intro b b' h
  have hencode : encode [b] = encode [b'] := by rw [encode_cons, encode_cons, h]
  exact (List.cons.inj (encode_injective hencode)).1

/-- **Every text of digits** of even length is the text of some bytes. -/
theorem exists_encode : ∀ {k : ℕ} {cs : List Char}, cs.length = 2 * k → (∀ c ∈ cs, IsDigit c) →
    ∃ bs : List UInt8, bs.length = k ∧ encode bs = cs := by
  intro k
  induction k with
  | zero =>
    intro cs hlen _
    obtain rfl := List.length_eq_zero_iff.mp hlen
    exact ⟨[], rfl, rfl⟩
  | succ k ih =>
    intro cs hlen hdigits
    match cs, hlen with
    | c :: d :: cs, hlen =>
      obtain ⟨m, hm⟩ := (hdigits c List.mem_cons_self).exists_value
      obtain ⟨n, hn⟩ := (hdigits d (List.mem_cons_of_mem c List.mem_cons_self)).exists_value
      have hrest : cs.length = 2 * k := by
        simp only [List.length_cons] at hlen
        omega
      obtain ⟨bs, hbs, hencode⟩ := ih hrest fun c' hc' =>
        hdigits c' (List.mem_cons_of_mem c (List.mem_cons_of_mem d hc'))
      refine ⟨UInt8.ofNat (16 * m + n) :: bs, by rw [List.length_cons, hbs], ?_⟩
      rw [encode_cons, byte_of_values hm hn, hencode]
      rfl

/-! ### Groups -/

/-- Groups of bytes, with a separator between them. -/
def group (sep : Char) (groups : List (List UInt8)) : List Char :=
  [sep].intercalate (groups.map encode)

def ungroup (sep : Char) (cs : List Char) : Option (List (List UInt8)) :=
  (cs.splitOn sep).mapM decode

theorem mapM_decode {words : List (List Char)} {groups : List (List UInt8)} :
    words.mapM decode = some groups ↔ groups.map encode = words := by
  induction words generalizing groups with
  | nil => simp
  | cons word words ih =>
    rw [List.mapM_cons]
    constructor
    · intro h
      obtain ⟨bs, hbs, hrest⟩ := Option.bind_eq_some_iff.mp h
      obtain ⟨rest, hwords, hgroups⟩ := Option.bind_eq_some_iff.mp hrest
      obtain rfl := Option.some.inj hgroups
      rw [List.map_cons, decode_eq_some.mp hbs, ih.mp hwords]
    · intro h
      obtain ⟨bs, rest, rfl, hbs, hrest⟩ := List.map_eq_cons_iff.mp h
      rw [decode_eq_some.mpr hbs, ih.mpr hrest]
      rfl

/-- **Round trip.** A separator that is no digit can be found again. -/
theorem ungroup_eq_some {sep : Char} (hsep : ¬ IsDigit sep) {cs : List Char}
    {groups : List (List UInt8)} (hne : groups ≠ []) :
    ungroup sep cs = some groups ↔ group sep groups = cs := by
  unfold ungroup group
  rw [mapM_decode]
  constructor
  · intro h
    rw [h, List.intercalate_splitOn]
  · rintro rfl
    refine (List.splitOn_intercalate sep ?_ ?_).symm
    · intro word hword hmem
      obtain ⟨bs, -, rfl⟩ := List.mem_map.mp hword
      exact hsep (isDigit_of_mem_encode hmem)
    · rwa [ne_eq, List.map_eq_nil_iff]

/-- **Every sequence of words** of digits of even lengths comes from groups of bytes. -/
theorem exists_group {sizes : List ℕ} {words : List (List Char)}
    (hlen : words.map List.length = sizes.map (2 * ·))
    (hdigits : ∀ word ∈ words, ∀ c ∈ word, IsDigit c) :
    ∃ groups : List (List UInt8), groups.map List.length = sizes ∧ groups.map encode = words := by
  induction sizes generalizing words with
  | nil =>
    obtain rfl := List.map_eq_nil_iff.mp hlen
    exact ⟨[], rfl, rfl⟩
  | cons size sizes ih =>
    obtain ⟨word, words, rfl, hword, hwords⟩ := List.map_eq_cons_iff.mp hlen
    obtain ⟨hfirst, hothers⟩ := List.forall_mem_cons.mp hdigits
    obtain ⟨bs, hsize, hencode⟩ := exists_encode hword hfirst
    obtain ⟨groups, hsizes, hgroups⟩ := ih hwords hothers
    refine ⟨bs :: groups, ?_, ?_⟩
    · rw [List.map_cons, hsize, hsizes]
    · rw [List.map_cons, hencode, hgroups]

end HexText
