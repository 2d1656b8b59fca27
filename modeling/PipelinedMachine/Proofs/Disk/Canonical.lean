import PipelinedMachine.Proofs.Disk.Packing
import PipelinedMachine.Proofs.Disk.Running

/-!
# The canonical form of an image

An image keeps the blocks that hold a word other than zero, and no others.  So what it keeps follows
from how it reads, and two images can be compared by comparing what they keep.  This is right only
if everything that makes an image, or writes to one, tidies up after itself.  Here all of it is
taken together: images are made, packed, loaded and written in any order, and drives hold them for a
while and write blocks back at moments of their own.

* `DiskDrive.Moment`, `DiskDrive.afterMoments` — what can happen to a drive that holds an image;
* `Block.toList_ofWords` — the words of a block made from any number of words;
* `DiskImage.Operation`, `DiskImage.perform?` — what can be done to an image, which may be refused;
* `DiskImage.performAll` — any number of operations; one that is refused leaves the image alone;
* `DiskImage.Canonical`, `DiskImage.Overwrites` — the form, and what a write is to do;
* `DiskImage.reachable_performAll` — nothing comes of it but images that are tidy.

Main statement: **`DiskImage.canonical_performAll`**, the form of every image that comes of it, with
the laws of comparing, reading and writing that rest on it.
-/

namespace PipelinedMachine

open FileTree

/-! ## A drive between two looks at its image -/

namespace DiskDrive

/-- What can happen to a drive. -/
inductive Moment where
  /-- It ticks, whatever there is on the links. -/
  | tick (bus : Interconnect)
  /-- The host has the current block written back. -/
  | flush

/-- The drive after one of these. -/
def afterMoment (drive : DiskDrive) : Moment → DiskDrive
  | .tick bus => (drive.tick bus).1
  | .flush => drive.flush

/-- The drive after some of these, in order. -/
def afterMoments (drive : DiskDrive) (moments : List Moment) : DiskDrive :=
  moments.foldl afterMoment drive

lemma Serves.afterMoment {capacity : Nat} {drive : DiskDrive} (serves : drive.Serves capacity)
    (moment : Moment) : (drive.afterMoment moment).Serves capacity := by
  cases moment with
  | tick bus => exact serves.tick bus
  | flush => exact serves.flush

lemma Serves.afterMoments {capacity : Nat} {drive : DiskDrive} (serves : drive.Serves capacity)
    (moments : List Moment) : (drive.afterMoments moments).Serves capacity := by
  induction moments generalizing drive with
  | nil => exact serves
  | cons moment moments ih => exact ih (serves.afterMoment moment)

end DiskDrive

/-! ## Words of a block -/

namespace Block

/-- A block that starts with `words` has the first of them, and zeros where they end. -/
lemma toList_ofWords (words : Array Word) :
    (ofWords words).toList = (words.toList ++ List.replicate blockWords 0).take blockWords := by
  rw [ofWords, DiskImage.toList_ofFn fun i => words.getD i 0]
  apply List.ext_getElem
  · simp
  · intro i inside inside'
    have below : i < blockWords := by simpa using inside
    rw [List.getElem_map, List.getElem_range, List.getElem_take, List.getElem_append]
    split_ifs with here
    · rw [Array.getElem_toList, Array.getD_eq_getD_getElem?, Array.getElem?_eq_getElem,
        Option.getD_some]
    · have past : words.size ≤ i := by simpa using here
      simp [Array.getD_eq_getD_getElem?, Array.getElem?_eq_none past]

/-- A block that is not all zeros has a word that is not zero. -/
lemma exists_ne_zero {block : Block} (nonzero : block ≠ zeros) :
    ∃ word ∈ block.toList, word ≠ 0 := by
  by_contra none
  push Not at none
  refine nonzero ((isZero_iff block).mp ?_)
  rw [isZero, Vector.all_eq_true]
  intro i inside
  simpa using none block[i] (by simp)

end Block

namespace DiskImage

/-! ## Operations on images -/

/-- What can be done to an image. -/
inductive Operation where
  /-- Puts a disk of zeros in its place. -/
  | blank (capacity : Nat)
  /-- Puts a packed program in its place. -/
  | program (capacity : Nat) (words : Array Word)
  /-- Puts the image of a directory in its place. -/
  | load (tree : FileTree) (directory : String) (capacity : Nat)
  /-- Writes a block, from any number of words. -/
  | write (index : Nat) (words : Array Word)
  /-- Leaves it to a drive for a while. -/
  | serve (terminal : Terminal) (timings : DiskTimings) (moments : List DiskDrive.Moment)

/-- The image that comes of an operation, unless the operation is refused. -/
def perform? (image : DiskImage) : Operation → Except DiskError DiskImage
  | .blank capacity => .ok (blank capacity)
  | .program capacity words => ofProgram? capacity words
  | .load tree directory capacity => (tree.outcome (load directory capacity)).1
  | .write index words => image.write? index (Block.ofWords words)
  | .serve terminal timings moments =>
    .ok ((DiskDrive.reset terminal image timings).afterMoments moments).image

/-- The image afterwards: the old one, if the operation is refused. -/
def perform (image : DiskImage) (operation : Operation) : DiskImage :=
  match image.perform? operation with
  | .ok made => made
  | .error _ => image

/-- The image after some operations in order. -/
def performAll (image : DiskImage) (operations : List Operation) : DiskImage :=
  operations.foldl perform image

lemma reachable_of_perform? {image made : DiskImage} (reachable : image.Reachable)
    {operation : Operation} (performed : image.perform? operation = .ok made) :
    made.Reachable := by
  cases operation with
  | blank capacity => exact Except.ok.inj performed ▸ .blank capacity
  | program capacity words => exact .program performed
  | load tree directory capacity => exact .load (Prod.ext performed rfl)
  | write index words => exact .write reachable performed
  | serve terminal timings moments =>
    have start : (DiskDrive.reset terminal image timings).Serves image.capacity := ⟨reachable, rfl⟩
    exact Except.ok.inj performed ▸ (start.afterMoments moments).reachable

/-- Only images that the single operations can make come of any number of them. -/
theorem reachable_performAll {image : DiskImage} (reachable : image.Reachable)
    (operations : List Operation) : (image.performAll operations).Reachable := by
  induction operations generalizing image with
  | nil => exact reachable
  | cons operation operations ih =>
    refine ih ?_
    rw [perform]
    split
    · next made performed => exact reachable_of_perform? reachable performed
    · exact reachable

/-! ## The form -/

/-- Every block that is kept lies on the disk, is a whole block, and holds a word other than
zero. -/
structure Canonical (image : DiskImage) : Prop where
  below : ∀ (index : Nat) (block : Block), image.blocks[index]? = some block →
    index < image.capacity
  whole : ∀ (index : Nat) (block : Block), image.blocks[index]? = some block →
    block.toList.length = 4096
  nonzero : ∀ (index : Nat) (block : Block), image.blocks[index]? = some block →
    ∃ word ∈ block.toList, word ≠ 0

lemma Tidy.canonical {image : DiskImage} (tidy : image.Tidy) : image.Canonical where
  below := tidy.below
  whole _ _ _ := by simp
  nonzero index block kept := Block.exists_ne_zero (tidy.nonzero index block kept)

/-- Tidy images are equal exactly if they are as large and read the same. -/
lemma Tidy.eq_iff {image other : DiskImage} (tidy : image.Tidy) (tidy' : other.Tidy) :
    image = other
      ↔ image.capacity = other.capacity ∧ ∀ index, image.read index = other.read index := by
  constructor
  · rintro rfl
    exact ⟨rfl, fun _ => rfl⟩
  · rintro ⟨capacity, same⟩
    exact tidy.ext tidy' capacity fun index _ => same index

/-! ## Writing -/

/-- What a write of `words` to block `index` is to do: the block has the first words and then zeros,
and every other block is as before. -/
structure Overwrites (image : DiskImage) (index : Nat) (words : Array Word) (after : DiskImage) :
    Prop where
  capacity : after.capacity = image.capacity
  block : (after.read index).toList
    = (words.toList ++ List.replicate blockWords 0).take blockWords
  others : ∀ other, other ≠ index → after.read other = image.read other

lemma overwrites_store (image : DiskImage) (index : Nat) (words : Array Word) :
    image.Overwrites index words (image.store index (Block.ofWords words)) := by
  refine ⟨image.capacity_store index _, ?_, fun other elsewhere => ?_⟩
  · rw [read_store, if_pos (Eq.refl index)]
    exact Block.toList_ofWords words
  · rw [read_store, if_neg elsewhere.symm]

/-- A write on the disk is carried out. -/
lemma write?_of_below {image : DiskImage} {index : Nat} (below : index < image.capacity)
    (words : Array Word) :
    ∃ after, image.perform? (.write index words) = .ok after
      ∧ image.perform (.write index words) = after ∧ image.Overwrites index words after := by
  have performed : image.perform? (.write index words)
      = .ok (image.store index (Block.ofWords words)) := if_pos below
  refine ⟨_, performed, ?_, image.overwrites_store index words⟩
  rw [perform, performed]

/-- A write beyond the disk is refused, and changes nothing. -/
lemma write?_of_beyond {image : DiskImage} {index : Nat} (beyond : image.capacity ≤ index)
    (words : Array Word) :
    image.perform? (.write index words) = .error (.outOfRange index image.capacity)
      ∧ image.perform (.write index words) = image := by
  have refused : image.perform? (.write index words)
      = .error (.outOfRange index image.capacity) := if_neg (Nat.not_lt.mpr beyond)
  refine ⟨refused, ?_⟩
  rw [perform, refused]

/-- **Images are canonical.**  Whatever has been done to an image, it keeps whole blocks of the disk
that are not all zeros; two such images are equal exactly if they are as large and read the same;
and a write replaces the one block by the first words given, filled up with zeros, or is refused and
changes nothing. -/
theorem canonical_performAll (operations : List Operation) :
    let image := (blank 0).performAll operations
    image.Canonical
      ∧ (∀ operations' : List Operation,
          let other := (blank 0).performAll operations'
          image = other
            ↔ image.capacity = other.capacity ∧ ∀ index, image.read index = other.read index)
      ∧ ∀ (index : Nat) (words : Array Word),
          (index < image.capacity →
            ∃ after, image.perform? (.write index words) = .ok after
              ∧ image.perform (.write index words) = after
              ∧ image.Overwrites index words after)
          ∧ (image.capacity ≤ index →
              image.perform? (.write index words) = .error (.outOfRange index image.capacity)
                ∧ image.perform (.write index words) = image) := by
  intro image
  have tidy (operations : List Operation) : ((blank 0).performAll operations).Tidy :=
    (reachable_performAll (.blank 0) operations).tidy
  refine ⟨(tidy operations).canonical, fun operations' => ?_, fun index words => ⟨?_, ?_⟩⟩
  · exact (tidy operations).eq_iff (tidy operations')
  · exact fun below => write?_of_below below words
  · exact fun beyond => write?_of_beyond beyond words

end DiskImage

end PipelinedMachine
