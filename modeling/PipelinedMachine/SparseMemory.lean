import PipelinedMachine.Word
import Std.Data.HashMap

/-!
# Sparse memory

A large array of words, all zero at first, of which only the pages that have been written are kept.
Reading outside the array gives zero and writing there does nothing, so every access is defined.

* `SparseMemory.read`, `SparseMemory.write` — single words;
* `SparseMemory.load` — a run of words, cut off at the end of the array;
* `SparseMemory.residentPages` — how many pages are kept.

Main statement: `SparseMemory.read_write`, a write changes one word and no other, whatever pages are
kept.
-/

namespace PipelinedMachine

/-- Words to a page. -/
abbrev pageWords : Nat := 4096

/-- One page, kept as a whole once any word of it has been written. -/
abbrev Page := Vector Word pageWords

/-- An array of words that starts out zero. -/
structure SparseMemory where
  /-- Words in the array. -/
  size : Nat
  /-- The pages that have been written, by page number. -/
  pages : Std.HashMap Nat Page

namespace Page

/-- A page of zeros. -/
def blank : Page := Vector.replicate pageWords 0

/-- The word of the page that holds `offset`. -/
def read (page : Page) (offset : Nat) : Word :=
  have : offset % pageWords < pageWords := Nat.mod_lt offset (by decide)
  page[offset % pageWords]

/-- Replaces the word of the page that holds `offset`. -/
def write (page : Page) (offset : Nat) (value : Word) : Page :=
  page.set (offset % pageWords) value (Nat.mod_lt offset (by decide))

@[simp] theorem read_blank (offset : Nat) : blank.read offset = 0 := by
  simp [blank, read]

theorem read_write (page : Page) (offset other : Nat) (value : Word) :
    (page.write offset value).read other =
      if offset % pageWords = other % pageWords then value else page.read other := by
  simp [write, read, Vector.getElem_set]

end Page

namespace SparseMemory

/-- `size` words of zero. -/
def zeroed (size : Nat) : SparseMemory := ⟨size, ∅⟩

/-- Whether `offset` is inside the array. -/
def covers (memory : SparseMemory) (offset : Nat) : Bool := offset < memory.size

/-- The word at `offset`, zero if it was never written or lies outside. -/
def read (memory : SparseMemory) (offset : Nat) : Word :=
  if memory.covers offset then
    match memory.pages[offset / pageWords]? with
    | some page => page.read offset
    | none => 0
  else 0

/-- Replaces the word at `offset`; outside the array nothing changes. -/
def write (memory : SparseMemory) (offset : Nat) (value : Word) : SparseMemory :=
  if memory.covers offset then
    { memory with
      pages := memory.pages.alter (offset / pageWords) fun page? =>
        some ((page?.getD Page.blank).write offset value) }
  else memory

@[simp] theorem read_zeroed (size offset : Nat) : (zeroed size).read offset = 0 := by
  simp [zeroed, read]

/-- A page that is not kept reads like a blank one. -/
theorem read_eq (memory : SparseMemory) (offset : Nat) :
    memory.read offset =
      if offset < memory.size then (memory.pages[offset / pageWords]?.getD Page.blank).read offset
      else 0 := by
  rw [read, covers]
  cases memory.pages[offset / pageWords]? <;> simp

/-- Writing a word changes that word alone, and only inside the array. -/
theorem read_write (memory : SparseMemory) (offset other : Nat) (value : Word) :
    (memory.write offset value).read other =
      if offset = other ∧ offset < memory.size then value else memory.read other := by
  by_cases hoff : offset < memory.size
  · simp only [read_eq, write, covers, hoff, decide_true, if_true, and_true,
      Std.HashMap.getElem?_alter, beq_iff_eq]
    by_cases hpage : offset / pageWords = other / pageWords
    · have hsame : offset % pageWords = other % pageWords ↔ offset = other := by
        simp only [pageWords] at hpage ⊢
        omega
      simp only [hpage, if_true, Option.getD_some, Page.read_write, hsame]
      by_cases h : offset = other
      · subst h; simp [hoff]
      · simp [h]
    · have hne : offset ≠ other := fun h => hpage (congrArg (· / pageWords) h)
      simp [hpage, hne]
  · simp [write, covers, hoff]

/-- Replaces the words from `offset` on by `words`, as far as the array goes. -/
def load (memory : SparseMemory) (offset : Nat) (words : Array Word) : SparseMemory :=
  words.zipIdx.foldl (fun memory entry => memory.write (offset + entry.2) entry.1) memory

/-- How many pages have been written. -/
def residentPages (memory : SparseMemory) : Nat := memory.pages.size

end SparseMemory

end PipelinedMachine
