import Chip8.Proofs.Digits
import Mathlib.Data.List.FinRange
import Mathlib.Data.List.Infix

set_option relaxedAutoImplicit false
set_option autoImplicit false

/-!
# Reading texts

A reader takes what it expects off the front of a text. It reads a text as some data if it takes
just that text, whatever comes after it. Readers one after another read texts one after another, so
that a reader for a format is put together as the writer is. Where some data have one written form
only, their reader takes nothing else.

## Main definitions

* `Chip8.Reader` — readers, with `Chip8.Reader.token`, `Chip8.Reader.upTo`, `Chip8.Reader.take`,
  `Chip8.Reader.number`, `Chip8.Reader.vector` and `Chip8.Reader.times`.
* `Chip8.Reader.whole` — what a reader makes of a text if it takes all of it.
* `Chip8.Reader.Reads` — a reader reads a text as some data.
* `Chip8.Reader.Spells` — a reader takes the written forms of its data, and nothing else.
* `Chip8.Text.lines` — the lines of a text, each with its end.

## Main results

* `Chip8.Reader.Reads.bind`, `Chip8.Reader.Reads.vector` — readers one after another.
* `Chip8.Reader.Spells.vector`, `Chip8.Reader.Spells.times` — the same for written forms.
* `Chip8.Text.lines_flatten` — lines one after another are the lines of what they make up.
-/

namespace Chip8

/-- A reader takes what it expects off the front of a text, if it is there. -/
abbrev Reader (α : Type) : Type :=
  StateT (List Char) Option α

namespace Reader

variable {α β : Type}

/-- The text itself. -/
def token (expected : List Char) : Reader Unit := fun text =>
  if expected <+: text then some ((), text.drop expected.length) else none

/-- What comes before a character. The character is taken as well. -/
def upTo (stop : Char) : Reader (List Char) := fun text =>
  match text.dropWhile (· != stop) with
  | [] => none
  | _ :: rest => some (text.takeWhile (· != stop), rest)

/-- The first characters. -/
def take (n : Nat) : Reader (List Char) := fun text =>
  if n ≤ text.length then some (text.take n, text.drop n) else none

/-- Something that may be missing. Nothing is taken. -/
def given (value : Option α) : Reader α := fun text => value.map (·, text)

/-- A number and the text that ends it. -/
def number (stop : Char) (after : List Char) : Reader Nat := do
  let digits ← upTo stop
  token after
  given (Hex.value? digits)

/-- Readers one after another. -/
def vector : (n : Nat) → (Fin n → Reader α) → Reader (Vector α n)
  | 0, _ => pure #v[]
  | n + 1, r => do
    let front ← vector n fun k => r k.castSucc
    let last ← r (Fin.last n)
    return front.push last

/-- The reader takes just this text, whatever comes after it, and reads it as `a`. -/
def Reads (r : Reader α) (text : List Char) (a : α) : Prop :=
  ∀ rest, r (text ++ rest) = some (a, rest)

theorem Reads.pure (a : α) : Reads (pure a) [] a := fun _ => rfl

theorem Reads.bind {r : Reader α} {r' : α → Reader β} {text text' : List Char} {a : α} {b : β}
    (h : Reads r text a) (h' : Reads (r' a) text' b) : Reads (r >>= r') (text ++ text') b := by
  intro rest
  have hfirst : r (text ++ text' ++ rest) = some (a, text' ++ rest) := by
    rw [List.append_assoc]
    exact h _
  simp only [Bind.bind, StateT.bind, hfirst, Option.bind_some]
  exact h' rest

/-- A last reader that takes nothing. -/
theorem Reads.map {r : Reader α} {text : List Char} {a : α} (f : α → β) (h : Reads r text a) :
    Reads (r >>= fun a => Pure.pure (f a)) text (f a) := by
  rw [← List.append_nil text]
  exact Reads.bind h (Reads.pure (f a))

theorem reads_token (expected : List Char) : Reads (token expected) expected () := by
  intro rest
  simp [token]

theorem reads_upTo {stop : Char} {text : List Char} (h : stop ∉ text) :
    Reads (upTo stop) (text ++ [stop]) text := by
  intro rest
  have hkept : ∀ c ∈ text, (c != stop) = true := by
    intro c hc
    simpa using fun heq : c = stop => h (heq ▸ hc)
  have hdrop : (text ++ [stop] ++ rest).dropWhile (· != stop) = stop :: rest := by
    rw [List.append_assoc, List.dropWhile_append_of_pos hkept]
    simp
  have htake : (text ++ [stop] ++ rest).takeWhile (· != stop) = text := by
    rw [List.append_assoc, List.takeWhile_append_of_pos hkept]
    simp
  simp only [upTo, hdrop, htake]

theorem reads_take (text : List Char) : Reads (take text.length) text text := by
  intro rest
  simp [take]

theorem reads_given {value : Option α} {a : α} (h : value = some a) : Reads (given value) [] a := by
  intro rest
  simp [given, h]

/-- A short form is read as its number, if what ends it is no digit. -/
theorem reads_number {stop : Char} (h : Hex.digitValue? stop = none) (after : List Char)
    (n : UInt16) : Reads (number stop after) (Hex.short n ++ stop :: after) n.toNat := by
  have htext : Hex.short n ++ stop :: after = (Hex.short n ++ [stop]) ++ (after ++ []) := by simp
  rw [htext]
  refine Reads.bind (reads_upTo (Hex.not_mem_short h n)) ?_
  exact Reads.bind (reads_token after) (reads_given (Hex.value?_short n))

/-- Readers one after another read texts one after another.

**Proof sketch.** Induction on how many there are: all but the last one, and then the last. -/
theorem Reads.vector {n : Nat} {r : Fin n → Reader α} {text : Fin n → List Char} {v : Vector α n}
    (h : ∀ k, Reads (r k) (text k) v[k]) :
    Reads (vector n r) ((List.finRange n).flatMap text) v := by
  induction n with
  | zero =>
    obtain rfl : v = #v[] := by simp
    exact Reads.pure _
  | succ n ih =>
    have hfront : Reads (Reader.vector n fun k => r k.castSucc)
        ((List.finRange n).flatMap fun k => text k.castSucc) v.pop :=
      ih fun k => by simpa using h k.castSucc
    have hv : v.pop.push v[Fin.last n] = v := v.push_pop_back
    rw [List.finRange_succ_last, List.flatMap_append, List.flatMap_map, List.flatMap_singleton,
      ← hv]
    exact Reads.bind hfront ((h (Fin.last n)).map fun last => v.pop.push last)

/-! ### Written forms -/

/-- The same reader so many times. -/
def times (r : Reader α) : Nat → Reader (List α)
  | 0 => pure []
  | n + 1 => do
    let first ← r
    let others ← r.times n
    return first :: others

/-- The reader takes the written form of some data off the front of a text, whatever comes after it,
and takes nothing else. -/
def Spells (r : Reader α) (spelling : α → List Char) : Prop :=
  ∀ text a rest, r text = some (a, rest) ↔ text = spelling a ++ rest

variable {r : Reader α} {spelling : α → List Char}

/-- What two readers take one after the other. -/
theorem bind_eq_some_iff {r' : α → Reader β} {text rest : List Char} {b : β} :
    (r >>= r') text = some (b, rest) ↔
      ∃ a middle, r text = some (a, middle) ∧ r' a middle = some (b, rest) := by
  simp only [Bind.bind, StateT.bind, Option.bind_eq_some_iff, Prod.exists]

theorem pure_eq_some_iff {a b : α} {text rest : List Char} :
    (Pure.pure a : Reader α) text = some (b, rest) ↔ a = b ∧ text = rest := by
  have hpure : (Pure.pure a : Reader α) text = some (a, text) := rfl
  rw [hpure, Option.some.injEq, Prod.mk.injEq]

/-- What a text is read as, if all of it is taken. -/
def whole (r : Reader α) (text : List Char) : Option α :=
  match r text with
  | some (a, []) => some a
  | _ => none

theorem whole_eq_some_iff {text : List Char} {a : α} :
    r.whole text = some a ↔ r text = some (a, []) := by
  unfold whole
  split
  · rename_i heq
    simp [heq]
  · rename_i hnone
    simpa using hnone a

/-- A text is read as some data exactly if it is their written form. -/
theorem Spells.whole_eq_some_iff (h : Spells r spelling) {text : List Char} {a : α} :
    r.whole text = some a ↔ text = spelling a := by
  rw [Reader.whole_eq_some_iff, h, List.append_nil]

/-- Data in another form, if the other form has the same spelling. -/
theorem Spells.map {spelling' : β → List Char} {f : α → β} (h : Spells r spelling)
    (hspelling : ∀ a, spelling' (f a) = spelling a) (hf : Function.Surjective f) :
    Spells (do return f (← r)) spelling' := by
  intro text b rest
  simp only [bind_eq_some_iff, pure_eq_some_iff, h text]
  constructor
  · rintro ⟨a, _, rfl, rfl, rfl⟩
    rw [hspelling]
  · rintro rfl
    obtain ⟨a, rfl⟩ := hf b
    exact ⟨a, rest, by rw [hspelling], rfl, rfl⟩

/-- A text that has to follow. -/
theorem Spells.andToken (h : Spells r spelling) (expected : List Char) :
    Spells (do let a ← r; token expected; return a) fun a => spelling a ++ expected := by
  intro text b rest
  simp only [bind_eq_some_iff, pure_eq_some_iff, h text, token]
  constructor
  · rintro ⟨a, middle, rfl, _, _, htoken, rfl, rfl⟩
    split at htoken
    · rename_i hexpected
      obtain ⟨after, rfl⟩ := hexpected
      simp only [List.drop_left, Option.some.injEq, Prod.mk.injEq, true_and] at htoken
      rw [htoken, List.append_assoc]
    · cases htoken
  · rintro rfl
    refine ⟨b, expected ++ rest, List.append_assoc .., (), rest, ?_, rfl, rfl⟩
    rw [if_pos (List.prefix_append expected rest), List.drop_left]

/-- Readers one after another take written forms one after another.

**Proof sketch.** Induction on how many there are: all but the last one, and then the last. -/
theorem Spells.vector {n : Nat} {r : Fin n → Reader α} {spelling : Fin n → α → List Char}
    (h : ∀ k, Spells (r k) (spelling k)) :
    Spells (Reader.vector n r) fun v => (List.finRange n).flatMap fun k => spelling k v[k] := by
  induction n with
  | zero =>
    intro text v rest
    obtain rfl : v = #v[] := by simp
    simp [Reader.vector, pure_eq_some_iff]
  | succ n ih =>
    intro text v rest
    have hfront := ih fun k => h k.castSucc
    simp only [Reader.vector, bind_eq_some_iff, pure_eq_some_iff, hfront _, h (Fin.last n) _,
      List.finRange_succ_last, List.flatMap_append, List.flatMap_map, List.flatMap_singleton]
    constructor
    · rintro ⟨front, _, rfl, last, _, rfl, rfl, rfl⟩
      simp
    · rintro rfl
      exact ⟨v.pop, spelling (Fin.last n) v[Fin.last n] ++ rest, by simp, v[Fin.last n], rest, rfl,
        v.push_pop_back, rfl⟩

/-- The same reader again and again takes written forms one after another. -/
theorem Spells.times (h : Spells r spelling) {n : Nat} {text rest : List Char} {as : List α} :
    r.times n text = some (as, rest) ↔ as.length = n ∧ text = as.flatMap spelling ++ rest := by
  induction n generalizing text rest as with
  | zero =>
    simp only [Reader.times, pure_eq_some_iff, List.length_eq_zero_iff]
    constructor
    · rintro ⟨rfl, rfl⟩
      exact ⟨rfl, rfl⟩
    · rintro ⟨rfl, rfl⟩
      exact ⟨rfl, rfl⟩
  | succ n ih =>
    simp only [Reader.times, bind_eq_some_iff, pure_eq_some_iff, h _, ih]
    constructor
    · rintro ⟨a, _, rfl, others, _, ⟨rfl, rfl⟩, rfl, rfl⟩
      simp
    · rintro ⟨hlength, rfl⟩
      obtain ⟨a, others, rfl⟩ := List.exists_cons_of_length_eq_add_one hlength
      exact ⟨a, others.flatMap spelling ++ rest, by simp, others, rest,
        ⟨by simpa using hlength, rfl⟩, rfl, rfl⟩

end Reader

/-! ## Lines -/

namespace Text

/-- The lines of a text, each with its end. -/
def lines : List Char → List (List Char)
  | [] => []
  | c :: text =>
    if c = '\n' then [c] :: lines text
    else
      match lines text with
      | [] => [[c]]
      | line :: rest => (c :: line) :: rest

/-- The text is one line. -/
def IsLine (text : List Char) : Prop :=
  ∃ body, '\n' ∉ body ∧ text = body ++ ['\n']

/-- A line before other lines. -/
theorem IsLine.lines_append {line : List Char} (h : IsLine line) (text : List Char) :
    lines (line ++ text) = line :: lines text := by
  obtain ⟨body, hbody, rfl⟩ := h
  induction body with
  | nil => simp [lines]
  | cons c body ih =>
    obtain ⟨hc, hbody⟩ : '\n' ≠ c ∧ '\n' ∉ body := by simpa using hbody
    simp only [List.cons_append, lines, if_neg hc.symm, ih hbody]

/-- Lines one after another are the lines of what they make up. -/
theorem lines_flatten {ls : List (List Char)} (h : ∀ line ∈ ls, IsLine line) :
    lines ls.flatten = ls := by
  induction ls with
  | nil => rfl
  | cons line ls ih =>
    obtain ⟨hline, hrest⟩ := List.forall_mem_cons.1 h
    rw [List.flatten_cons, hline.lines_append, ih hrest]

end Text

end Chip8
