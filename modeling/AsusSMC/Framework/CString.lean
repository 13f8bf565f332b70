import Mathlib.Data.List.Basic
import Mathlib.Tactic.Common

/-!
# Text in a buffer

Formatted text as C writes it: `snprintf(out, size, …)` stores at most `size`
characters at `out`, the terminator `z` being one of them, and returns the length of
the whole text, by which the caller moves `out` on (`print`). A store past the end of
the buffer is not modelled away: it is `none`.

The return value counts characters that may not have been stored. Where no call
truncates and the buffer has room, `out` stands right behind the text: `Wrote w w' text`
says that `w'` has come from `w` by writing `text`. Each call keeps it
(`print_of_room`), so that a sequence of calls does (`printAll_of_room`), and
`write_eq` is the buffer after the terminator is set.
-/

namespace CString

variable {α : Type*}

/-- Store characters from index `i` on; `none` is a store past the end. -/
def store (i : ℕ) (cs buf : List α) : Option (List α) :=
  if i + cs.length ≤ buf.length then
    some (buf.take i ++ cs ++ buf.drop (i + cs.length))
  else
    none

/-- A call of `snprintf`: its `size`, and the text that its format asks for. -/
structure Call (α : Type*) where
  size : ℕ
  text : List α

namespace Call

/-- The text and its terminator do not fit into `size` characters. -/
def Truncates (c : Call α) : Prop := c.size ≤ c.text.length

instance (c : Call α) : Decidable c.Truncates := inferInstanceAs (Decidable (_ ≤ _))

/-- The characters that are stored: with `size` zero there is not even a terminator. -/
def stored (z : α) (c : Call α) : List α :=
  match c.size with
  | 0 => []
  | n + 1 => c.text.take n ++ [z]

theorem stored_of_fits {z : α} {c : Call α} (h : ¬ c.Truncates) : c.stored z = c.text ++ [z] := by
  unfold Truncates at h
  unfold stored
  split
  · next hsize => omega
  · next n hsize => rw [List.take_of_length_le (by omega)]

end Call

/-- A buffer, and the index at which `out` points into it. -/
structure Cursor (α : Type*) where
  buf : List α
  out : ℕ

/-- `out += snprintf(out, size, …)`. -/
def print (z : α) (w : Cursor α) (c : Call α) : Option (Cursor α) :=
  (store w.out (c.stored z) w.buf).map fun buf => ⟨buf, w.out + c.text.length⟩

/-- One call after the other. -/
def printAll (z : α) (w : Cursor α) (calls : List (Call α)) : Option (Cursor α) :=
  calls.foldlM (print z) w

/-- `*out = 0`. -/
def terminate (z : α) (w : Cursor α) : Option (List α) := store w.out [z] w.buf

/-- Calls of `snprintf`, and the terminator. -/
def write (z : α) (w : Cursor α) (calls : List (Call α)) : Option (List α) :=
  (printAll z w calls).bind (terminate z)

section Store

variable {i : ℕ} {cs buf buf' : List α}

theorem store_of_le (h : i + cs.length ≤ buf.length) :
    store i cs buf = some (buf.take i ++ cs ++ buf.drop (i + cs.length)) := if_pos h

/-- A store leaves the buffer as long as it was. -/
theorem length_store (h : store i cs buf = some buf') :
    i + cs.length ≤ buf.length ∧ buf'.length = buf.length := by
  unfold store at h
  split at h
  · next hle =>
    obtain rfl := Option.some.inj h
    refine ⟨hle, ?_⟩
    simp only [List.length_append, List.length_take, List.length_drop]
    omega
  · exact nomatch h

end Store

/-! ### What has been written -/

/-- From `w` to `w'` the characters of `text` have been written, and `out` points at
the first index behind them. That index may hold anything, and everything after it is
what it was. -/
structure Wrote (w w' : Cursor α) (text : List α) : Prop where
  out : w'.out = w.out + text.length
  length : w'.buf.length = w.buf.length
  front : w'.buf.take w'.out = w.buf.take w.out ++ text
  back : w'.buf.drop (w'.out + 1) = w.buf.drop (w'.out + 1)

namespace Wrote

variable {w w' w'' : Cursor α} {s t : List α}

theorem refl (w : Cursor α) : Wrote w w [] := ⟨rfl, rfl, (List.append_nil _).symm, rfl⟩

theorem trans (h : Wrote w w' s) (h' : Wrote w' w'' t) : Wrote w w'' (s ++ t) := by
  have hout : w''.out = w.out + (s ++ t).length := by
    rw [h'.out, h.out, List.length_append, Nat.add_assoc]
  refine ⟨hout, h'.length.trans h.length, ?_, ?_⟩
  · rw [h'.front, h.front, List.append_assoc]
  · -- the second text begins where the first one ends
    have hsplit : w''.out + 1 = (w'.out + 1) + t.length := by
      have := h'.out
      omega
    rw [h'.back, hsplit, ← List.drop_drop, h.back, List.drop_drop]

/-- The terminator, once something has been written. -/
theorem terminate_eq {z : α} (h : Wrote w w' s) (hroom : w.out + s.length < w.buf.length) :
    terminate z w' = some (w.buf.take w.out ++ s ++ z :: w.buf.drop (w.out + s.length + 1)) := by
  have hout := h.out
  have hlen := h.length
  unfold terminate
  rw [store_of_le (by rw [List.length_singleton]; omega), List.length_singleton, h.front, h.back,
    hout, List.append_assoc, List.singleton_append]

end Wrote

section Print

variable {z : α} {w w' : Cursor α} {c : Call α} {calls : List (Call α)}

/-- **One call** that does not truncate, into a buffer with room for the text and its
terminator. -/
theorem print_of_room (hfits : ¬ c.Truncates) (hroom : w.out + c.text.length < w.buf.length) :
    ∃ w', print z w c = some w' ∧ Wrote w w' c.text := by
  have hlen : w.out + (c.text ++ [z]).length ≤ w.buf.length := by
    rw [List.length_append, List.length_singleton]
    omega
  have htake : (w.buf.take w.out).length = w.out := by
    rw [List.length_take]
    omega
  have hstore := store_of_le hlen
  unfold print
  rw [Call.stored_of_fits hfits, hstore]
  refine ⟨_, rfl, rfl, (length_store hstore).2, ?_, ?_⟩
  · -- the text is in front of `out`, and the terminator is not
    have hfront : (w.buf.take w.out ++ c.text).length = w.out + c.text.length := by
      rw [List.length_append, htake]
    show (w.buf.take w.out ++ (c.text ++ [z]) ++ _).take (w.out + c.text.length) = _
    rw [← List.append_assoc, List.append_assoc _ [z], ← hfront, List.take_left]
  · -- the terminator is the last character that is stored
    have hback : (w.buf.take w.out ++ (c.text ++ [z])).length = w.out + c.text.length + 1 := by
      simp only [List.length_append, htake, List.length_singleton]
      omega
    show (w.buf.take w.out ++ (c.text ++ [z]) ++ _).drop (w.out + c.text.length + 1) = _
    rw [← hback, List.drop_left, hback, List.length_append, List.length_singleton, Nat.add_assoc]

/-- What a call does to `out` and to the length, also if it truncates. -/
theorem print_out (h : print z w c = some w') :
    w'.out = w.out + c.text.length ∧ w'.buf.length = w.buf.length := by
  obtain ⟨buf, hstore, rfl⟩ := Option.map_eq_some_iff.mp h
  exact ⟨rfl, (length_store hstore).2⟩

@[simp] theorem printAll_nil : printAll z w [] = some w := rfl

theorem printAll_cons : printAll z w (c :: calls) = (print z w c).bind (printAll z · calls) := rfl

/-- **A sequence of calls** none of which truncates. -/
theorem printAll_of_room (hfits : ∀ c ∈ calls, ¬ c.Truncates)
    (hroom : w.out + (calls.flatMap Call.text).length < w.buf.length) :
    ∃ w', printAll z w calls = some w' ∧ Wrote w w' (calls.flatMap Call.text) := by
  -- the induction is on the calls that are left, from wherever `out` points
  induction calls generalizing w with
  | nil => exact ⟨w, rfl, Wrote.refl w⟩
  | cons c calls ih =>
    rw [List.flatMap_cons] at hroom ⊢
    rw [List.length_append] at hroom
    obtain ⟨w₁, hprint, hwrote⟩ :=
      print_of_room (z := z) (hfits c List.mem_cons_self) (by omega : w.out + c.text.length < _)
    have hout := hwrote.out
    have hlen := hwrote.length
    obtain ⟨w₂, hrest, hwrote'⟩ :=
      ih (w := w₁) (fun c' hc' => hfits c' (List.mem_cons_of_mem c hc')) (by omega)
    refine ⟨w₂, ?_, hwrote.trans hwrote'⟩
    rw [printAll_cons, hprint]
    exact hrest

theorem printAll_out (h : printAll z w calls = some w') :
    w'.out = w.out + (calls.flatMap Call.text).length ∧ w'.buf.length = w.buf.length := by
  induction calls generalizing w with
  | nil =>
    obtain rfl := Option.some.inj h
    exact ⟨rfl, rfl⟩
  | cons c calls ih =>
    rw [printAll_cons] at h
    obtain ⟨w₁, hprint, hrest⟩ := Option.bind_eq_some_iff.mp h
    obtain ⟨hout, hlen⟩ := print_out hprint
    obtain ⟨hout', hlen'⟩ := ih hrest
    rw [List.flatMap_cons, List.length_append, ← Nat.add_assoc, ← hout]
    exact ⟨hout', hlen'.trans hlen⟩

/-- **The buffer afterwards**: the texts of the calls, one behind the other, and one
terminator. -/
theorem write_eq (hfits : ∀ c ∈ calls, ¬ c.Truncates)
    (hroom : w.out + (calls.flatMap Call.text).length < w.buf.length) :
    write z w calls = some (w.buf.take w.out ++ calls.flatMap Call.text
      ++ z :: w.buf.drop (w.out + (calls.flatMap Call.text).length + 1)) := by
  obtain ⟨w', hprint, hwrote⟩ := printAll_of_room hfits hroom
  unfold write
  rw [hprint]
  exact hwrote.terminate_eq hroom

/-- A buffer without room for the texts and the terminator is overrun. -/
theorem write_of_short (h : w.buf.length ≤ w.out + (calls.flatMap Call.text).length) :
    write z w calls = none := by
  apply Option.eq_none_iff_forall_not_mem.mpr
  intro buf hbuf
  obtain ⟨w', hprint, hterm⟩ := Option.bind_eq_some_iff.mp hbuf
  obtain ⟨hout, hlen⟩ := printAll_out hprint
  obtain ⟨hle, -⟩ := length_store hterm
  rw [List.length_singleton] at hle
  omega

end Print

/-! ### Reading -/

section Read

variable [DecidableEq α]

/-- The characters before the first terminator. -/
def read (z : α) (buf : List α) : List α := buf.takeWhile (· ≠ z)

/-- `strncmp(s, t, n) == 0`; `none` is a read past the end of one of the two. -/
def strncmpEq (z : α) : ℕ → List α → List α → Option Bool
  | 0, _, _ => some true
  | n + 1, a :: s, b :: t =>
    if a ≠ b then some false
    -- equal so far, and both end here
    else if a = z then some true
    else strncmpEq z n s t
  | _ + 1, _, _ => none

variable {z : α}

theorem read_append {s : List α} (hs : z ∉ s) (rest : List α) : read z (s ++ z :: rest) = s := by
  unfold read
  rw [List.takeWhile_append_of_pos]
  · simp
  · intro a ha
    exact decide_eq_true fun h => hs (h ▸ ha)

/-- **One call at the beginning** of a buffer of at least `size` characters, read back: as
much of the text as there is room for before the terminator. -/
theorem read_print {n : ℕ} {text buf : List α} (hbuf : n + 1 ≤ buf.length) (htext : z ∉ text) :
    ∃ w, print z ⟨buf, 0⟩ ⟨n + 1, text⟩ = some w ∧ w.buf.length = buf.length ∧
      read z w.buf = text.take n := by
  have hstored : (Call.mk (n + 1) text).stored z = text.take n ++ [z] := rfl
  have hroom : 0 + (text.take n ++ [z]).length ≤ buf.length := by
    rw [List.length_append, List.length_take, List.length_singleton]
    omega
  have hstore := store_of_le hroom
  have hz : z ∉ text.take n := fun h => htext (List.mem_of_mem_take h)
  rw [List.take_zero, List.nil_append, List.append_assoc, List.singleton_append] at hstore
  refine ⟨⟨text.take n ++ z :: buf.drop (0 + (text.take n ++ [z]).length), 0 + text.length⟩,
    ?_, (length_store hstore).2, read_append hz _⟩
  show (store 0 ((Call.mk (n + 1) text).stored z) buf).map _ = _
  rw [hstored, hstore]
  rfl

/-- Texts as long as the comparison are equal exactly if they compare equal. -/
theorem strncmpEq_append {s t : List α} (hs : z ∉ s) (hlen : s.length = t.length)
    (s' t' : List α) :
    strncmpEq z s.length (s ++ s') (t ++ t') = some (decide (s = t)) := by
  induction s generalizing t with
  | nil =>
    obtain rfl := List.length_eq_zero_iff.mp hlen.symm
    rfl
  | cons a s ih =>
    cases t with
    | nil => exact absurd hlen (by simp)
    | cons b t =>
      have ha : a ≠ z := fun h => hs (h ▸ List.mem_cons_self)
      have hrest := ih (fun h => hs (List.mem_cons_of_mem a h)) (Nat.succ.inj hlen)
      show (if a ≠ b then some false else if a = z then some true
        else strncmpEq z s.length (s ++ s') (t ++ t')) = _
      by_cases hab : a = b
      · rw [if_neg (not_not.mpr hab), if_neg ha, hrest]
        simp [hab]
      · rw [if_pos hab]
        simp [hab]

end Read

end CString
