import PipelinedMachine.Disk.Error
import PipelinedMachine.Word
import Std.Data.ExtTreeMap

/-!
# Disk images

A disk is a row of blocks of 4096 words.  An image keeps only the blocks that hold a word other than
zero; all others read as zeros.  Since a block of zeros is never kept, two images with the same
capacity and the same blocks are equal.

* `Block.ofWords` — a block from any number of words;
* `DiskImage.read`, `DiskImage.write?` — whole blocks;
* `DiskImage.ofProgram?` — an image that the boot loader can boot.

Main statement: `DiskImage.read_store`, whether a block is kept makes no difference to reading it.
-/

namespace PipelinedMachine

/-! ## Blocks -/

/-- Words to a block. -/
abbrev blockWords : Nat := 4096

/-- One block of a disk. -/
abbrev Block := Vector Word blockWords

namespace Block

/-- A block of zeros. -/
def zeros : Block := Vector.replicate blockWords 0

/-- The block that starts with `words`: zeros are added at the end, and words beyond the end of the
block are left out. -/
def ofWords (words : Array Word) : Block := Vector.ofFn fun i => words.getD i 0

/-- Whether every word of the block is zero. -/
def isZero (block : Block) : Bool := block.all fun word => word == 0

theorem isZero_iff (block : Block) : block.isZero = true ↔ block = zeros := by
  constructor
  · intro h
    ext i hi
    simpa [zeros] using Vector.all_eq_true.mp h i hi
  · rintro rfl
    simp [isZero, zeros]

end Block

/-! ## Images -/

/-- The contents of a disk. -/
structure DiskImage where
  /-- Number of blocks on the disk. -/
  capacity : Nat
  /-- The blocks that hold a word other than zero, by number. -/
  blocks : Std.ExtTreeMap Nat Block
deriving DecidableEq

namespace DiskImage

/-- A disk of zeros. -/
def blank (capacity : Nat) : DiskImage := ⟨capacity, ∅⟩

/-- The numbers of the blocks that are kept, in ascending order. -/
def stored (image : DiskImage) : List Nat := image.blocks.keys

/-- The block with the given number. -/
def read (image : DiskImage) (index : Nat) : Block := image.blocks[index]?.getD Block.zeros

/-- The image with one block replaced.  A block of zeros is not kept. -/
def store (image : DiskImage) (index : Nat) (block : Block) : DiskImage :=
  { image with
    blocks := if block.isZero then image.blocks.erase index else image.blocks.insert index block }

/-- Replacing a block changes that block alone, whether it is kept or not. -/
theorem read_store (image : DiskImage) (index other : Nat) (block : Block) :
    (image.store index block).read other = if index = other then block else image.read other := by
  simp only [store, read]
  by_cases hzero : block.isZero = true
  · simp only [hzero, if_true, Std.ExtTreeMap.getElem?_erase, Std.LawfulEqOrd.compare_eq_iff_eq]
    split <;> simp [(Block.isZero_iff block).mp hzero]
  · simp only [hzero, Bool.false_eq_true, if_false, Std.ExtTreeMap.getElem?_insert,
      Std.LawfulEqOrd.compare_eq_iff_eq]
    split <;> simp

/-- The image with one block replaced by `block`; refused beyond the capacity. -/
def write? (image : DiskImage) (index : Nat) (block : Block) : Except DiskError DiskImage :=
  if index < image.capacity then .ok (image.store index block)
  else .error (.outOfRange index image.capacity)

/-! ## Programs -/

/-- The number of program blocks, as block 0 records it. -/
def programBlocks (image : DiskImage) : Word := (image.read 0)[0]

/-- How many blocks a program of `size` words is given.  A program that fills its blocks exactly
gets one more. -/
def blocksFor (size : Nat) : Nat := size / blockWords + 1

/-- The part of a program that goes into its block number `i`, counted from zero. -/
def chunk (program : Array Word) (i : Nat) : Block :=
  Block.ofWords (program.extract (blockWords * i) (blockWords * (i + 1)))

/-- Largest number of program blocks that block 0 can record. -/
def maxProgramBlocks : Nat := Int32.maxValue.toNatClampNeg

/-- An image that boots `program`: block 0 records how many blocks the program has, and they follow
it.  Refused unless the disk has room for all of them. -/
def ofProgram? (capacity : Nat) (program : Array Word) : Except DiskError DiskImage :=
  let count := blocksFor program.size
  if count < capacity ∧ count ≤ maxProgramBlocks then
    let header := (blank capacity).store 0 (Block.ofWords #[Int32.ofNat count])
    .ok <| (List.range count).foldl (fun image i => image.store (i + 1) (chunk program i)) header
  else .error (.outOfRange count capacity)

end DiskImage

end PipelinedMachine
