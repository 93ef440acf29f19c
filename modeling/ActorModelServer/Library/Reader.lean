/-
**Readers with a cursor.**

A `Cursor` is a place in a memory, with the number of symbols it may still read and the places it
has read. A reader advances it by what it consumes, whether it succeeds or not. `Accepts` says that
a reader accepts exactly the values of an encoding: it reads a value when the symbols ahead begin
with an encoding of it, and advances by that encoding.

* `Accepts.pure`, `Accepts.fixed`, `Accepts.andThen`, `Accepts.map` — nothing, a number of symbols,
  one reader after another, and another view of the value; `Accepts.of_map` takes a view off.
-/

import Mathlib.Data.List.Infix
import Mathlib.Logic.Function.Basic
import Mathlib.Tactic.Common

namespace Reader

universe u v w

variable {Symbol : Type u}

/-- A place in a memory, and what may be read from there. -/
structure Cursor where
  data : ℕ
  remaining : ℕ
  /-- The places that were read. -/
  reads : List ℕ

namespace Cursor

/-- Some symbols from the place on. -/
def symbols (cursor : Cursor) (memory : ℕ → Symbol) (count : ℕ) : List Symbol :=
  (List.range' cursor.data count).map memory

/-- The symbols that may be read. -/
def ahead (cursor : Cursor) (memory : ℕ → Symbol) : List Symbol :=
  cursor.symbols memory cursor.remaining

/-- Some symbols are read. -/
def advance (cursor : Cursor) (count : ℕ) : Cursor :=
  ⟨cursor.data + count, cursor.remaining - count, cursor.reads ++ List.range' cursor.data count⟩

@[simp] theorem advance_zero (cursor : Cursor) : cursor.advance 0 = cursor := by
  simp [advance]

theorem advance_advance (cursor : Cursor) (first second : ℕ) :
    (cursor.advance first).advance second = cursor.advance (first + second) := by
  simp [advance, Nat.add_assoc, Nat.sub_add_eq, ← List.range'_append_1]

@[simp] theorem length_symbols (cursor : Cursor) (memory : ℕ → Symbol) (count : ℕ) :
    (cursor.symbols memory count).length = count := by
  simp [symbols]

@[simp] theorem length_ahead (cursor : Cursor) (memory : ℕ → Symbol) :
    (cursor.ahead memory).length = cursor.remaining :=
  cursor.length_symbols memory cursor.remaining

/-- What is read is at the front of what is ahead. -/
theorem ahead_eq (cursor : Cursor) (memory : ℕ → Symbol) {count : ℕ}
    (enough : count ≤ cursor.remaining) :
    cursor.ahead memory = cursor.symbols memory count ++ (cursor.advance count).ahead memory := by
  rw [ahead, ahead, symbols, symbols, symbols, ← List.map_append]
  exact congrArg (List.map memory) (by simp [advance, List.range'_append_1, enough])

/-- A front of what is ahead is what is read there. -/
theorem symbols_of_front {cursor : Cursor} {memory : ℕ → Symbol} {front : List Symbol}
    (begins : front <+: cursor.ahead memory) :
    front.length ≤ cursor.remaining ∧ cursor.symbols memory front.length = front := by
  have enough : front.length ≤ cursor.remaining := cursor.length_ahead memory ▸ begins.length_le
  rw [cursor.ahead_eq memory enough] at begins
  have same : front <+: cursor.symbols memory front.length :=
    List.prefix_of_prefix_length_le begins (List.prefix_append _ _) (by simp)
  exact ⟨enough, (same.eq_of_length (by simp)).symm⟩

/-- What comes behind a front of what is ahead. -/
theorem append_front_iff {cursor : Cursor} {memory : ℕ → Symbol} {front : List Symbol}
    (begins : front <+: cursor.ahead memory) (back : List Symbol) :
    front ++ back <+: cursor.ahead memory ↔
      back <+: (cursor.advance front.length).ahead memory := by
  obtain ⟨enough, same⟩ := symbols_of_front begins
  rw [cursor.ahead_eq memory enough, same, List.prefix_append_right_inj]

end Cursor

open Cursor (symbols_of_front append_front_iff)

/-- The cursor moved on by what was consumed, within what may be read. -/
def Moves (before after : Cursor) : Prop :=
  ∃ count, count ≤ before.remaining ∧ after = before.advance count

theorem Moves.trans {first second third : Cursor} (early : Moves first second)
    (late : Moves second third) : Moves first third := by
  obtain ⟨start, enough, rfl⟩ := early
  obtain ⟨further, more, rfl⟩ := late
  have within : further ≤ first.remaining - start := more
  exact ⟨start + further, by omega, first.advance_advance start further⟩

/-- **The reader accepts exactly the encoded values.** -/
structure Accepts {Value : Type v} (memory : ℕ → Symbol) (Encodes : Value → List Symbol → Prop)
    (read : Cursor → Option Value × Cursor) : Prop where
  moves : ∀ cursor, Moves cursor (read cursor).2
  accepts : ∀ cursor value encoded, Encodes value encoded → encoded <+: cursor.ahead memory →
    read cursor = (some value, cursor.advance encoded.length)
  only : ∀ cursor value, (read cursor).1 = some value →
    ∃ encoded, Encodes value encoded ∧ encoded <+: cursor.ahead memory

/-- One reader after another. -/
def andThen {First : Type v} {Second : Type w} (read : Cursor → Option First × Cursor)
    (next : First → Cursor → Option Second × Cursor) (cursor : Cursor) : Option Second × Cursor :=
  match read cursor with
  | (none, moved) => (none, moved)
  | (some first, moved) => next first moved

/-- Another view of what is read. -/
def map {First : Type v} {Second : Type w} (view : First → Second)
    (read : Cursor → Option First × Cursor) (cursor : Cursor) : Option Second × Cursor :=
  ((read cursor).1.map view, (read cursor).2)

/-- Some number of symbols. -/
def fixed (memory : ℕ → Symbol) (count : ℕ) (cursor : Cursor) : Option (List Symbol) × Cursor :=
  if cursor.remaining < count then (none, cursor)
  else (some (cursor.symbols memory count), cursor.advance count)

variable {memory : ℕ → Symbol}

theorem Accepts.pure {Value : Type v} (value : Value) :
    Accepts memory (fun other encoded => other = value ∧ encoded = [])
      fun cursor => (some value, cursor) where
  moves cursor := ⟨0, Nat.zero_le _, cursor.advance_zero.symm⟩
  accepts := by
    rintro cursor other encoded ⟨rfl, rfl⟩ -
    rw [List.length_nil, Cursor.advance_zero]
  only := by
    intro cursor other same
    exact ⟨[], ⟨(Option.some.inj same).symm, rfl⟩, List.nil_prefix⟩

theorem Accepts.fixed (count : ℕ) :
    Accepts memory (fun value encoded => value.length = count ∧ encoded = value)
      (Reader.fixed memory count) where
  moves cursor := by
    unfold Reader.fixed
    split
    · exact ⟨0, Nat.zero_le _, cursor.advance_zero.symm⟩
    · exact ⟨count, by omega, rfl⟩
  accepts := by
    rintro cursor value encoded ⟨rfl, rfl⟩ ahead
    obtain ⟨enough, same⟩ := symbols_of_front ahead
    rw [Reader.fixed, if_neg (by omega), same]
  only := by
    intro cursor value read
    unfold Reader.fixed at read
    split at read
    · cases read
    · cases read
      rename_i more
      refine ⟨_, ⟨cursor.length_symbols memory count, rfl⟩, ?_⟩
      rw [cursor.ahead_eq memory (Nat.le_of_not_lt more)]
      exact List.prefix_append _ _

/-- **One reader after another** accepts one encoding after another; the second may depend on what
was read. -/
theorem Accepts.andThen {First : Type v} {Second : Type w}
    {Encodes : First → List Symbol → Prop} {EncodesNext : First → Second → List Symbol → Prop}
    {read : Cursor → Option First × Cursor} {next : First → Cursor → Option Second × Cursor}
    (reads : Accepts memory Encodes read)
    (readsNext : ∀ first, Accepts memory (EncodesNext first) (next first)) :
    Accepts memory
      (fun second encoded => ∃ first front back, Encodes first front ∧
        EncodesNext first second back ∧ encoded = front ++ back)
      (Reader.andThen read next) where
  moves cursor := by
    have moved := reads.moves cursor
    unfold Reader.andThen
    split
    · rename_i after same
      rwa [same] at moved
    · rename_i first after same
      rw [same] at moved
      exact moved.trans ((readsNext first).moves after)
  accepts := by
    rintro cursor second encoded ⟨first, front, back, early, late, rfl⟩ ahead
    have begins := (List.prefix_append front back).trans ahead
    have behind := (append_front_iff begins back).mp ahead
    have first_read := reads.accepts cursor first front early begins
    have second_read := (readsNext first).accepts _ second back late behind
    simp only [Reader.andThen, first_read, second_read, Cursor.advance_advance, List.length_append]
  only := by
    intro cursor second read
    unfold Reader.andThen at read
    split at read
    · cases read
    · rename_i first after same
      obtain ⟨front, early, begins⟩ := reads.only cursor first (by rw [same])
      obtain ⟨back, late, behind⟩ := (readsNext first).only after second read
      have moved := reads.accepts cursor first front early begins
      rw [same] at moved
      obtain rfl : after = cursor.advance front.length := congrArg Prod.snd moved
      exact ⟨front ++ back, ⟨first, front, back, early, late, rfl⟩,
        (append_front_iff begins back).mpr behind⟩

theorem Accepts.map {First : Type v} {Second : Type w} {Encodes : First → List Symbol → Prop}
    {read : Cursor → Option First × Cursor} (reads : Accepts memory Encodes read)
    (view : First → Second) :
    Accepts memory (fun second encoded => ∃ first, Encodes first encoded ∧ view first = second)
      (Reader.map view read) where
  moves := reads.moves
  accepts := by
    rintro cursor second encoded ⟨first, encodes, rfl⟩ ahead
    rw [Reader.map, reads.accepts cursor first encoded encodes ahead]
    rfl
  only := by
    intro cursor second read
    obtain ⟨first, found, rfl⟩ := Option.map_eq_some_iff.mp read
    obtain ⟨encoded, encodes, ahead⟩ := reads.only cursor first found
    exact ⟨encoded, ⟨first, encodes, rfl⟩, ahead⟩

/-- What is read, seen through a view that loses nothing. -/
theorem Accepts.of_map {First : Type v} {Second : Type w} {Encodes : Second → List Symbol → Prop}
    {read : Cursor → Option First × Cursor} {view : First → Second}
    (reads : Accepts memory Encodes (Reader.map view read)) (injective : Function.Injective view) :
    Accepts memory (fun first encoded => Encodes (view first) encoded) read where
  moves := reads.moves
  accepts := by
    intro cursor first encoded encodes ahead
    have moved := reads.accepts cursor (view first) encoded encodes ahead
    obtain ⟨other, found, same⟩ := Option.map_eq_some_iff.mp (congrArg Prod.fst moved)
    obtain rfl := injective same
    have place : (read cursor).2 = cursor.advance encoded.length := (Prod.ext_iff.mp moved).2
    exact Prod.ext found place
  only := by
    intro cursor first read
    exact reads.only cursor (view first) (congrArg (Option.map view) read)

/-- The same encoding, and the same reader. -/
theorem Accepts.congr {Value : Type v} {Encodes Other : Value → List Symbol → Prop}
    {read other : Cursor → Option Value × Cursor} (reads : Accepts memory Encodes read)
    (same : ∀ value encoded, Other value encoded ↔ Encodes value encoded)
    (equal : ∀ cursor, other cursor = read cursor) : Accepts memory Other other := by
  obtain rfl : other = read := funext equal
  obtain rfl : Other = Encodes := funext fun value => funext fun encoded =>
    propext (same value encoded)
  exact reads

end Reader
