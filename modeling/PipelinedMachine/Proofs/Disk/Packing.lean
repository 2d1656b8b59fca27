import Mathlib.Data.List.Basic
import PipelinedMachine.Proofs.Disk.Saving

/-!
# Packing a program

A program goes onto a disk in pieces of one block each, and its bytes change their form three
times: they are read as words, the words are written to files as bytes, and these are read again.
Nothing is lost on the way, and nothing is added but zeros at the end.

* `Word.toFile_ofFile` — words read from a file are written back as the same bytes;
* `DiskImage.dataWords` — the words of the blocks that a program is given;
* `DiskImage.Packs` — an image that holds a program and nothing else;
* `DiskImage.packs_ofProgram?` — a packed program is such an image;
* `DiskImage.load_after_save_empty` — an image saved to an empty directory is loaded from it again.

Main statement: `DiskImage.packing_loses_nothing`, from the bytes of a program to its image, to the
files of the image and back.
-/

namespace PipelinedMachine

open FileTree

/-! ## Bytes and words -/

namespace Word

lemma toList_toFile (words : Array Word) :
    (toFile words).data.toList = words.toList.flatMap fun word => (quad word).toList := by
  simp [toFile, quad]

lemma quad_ofBytes (b3 b2 b1 b0 : UInt8) : quad (ofBytes b3 b2 b1 b0) = #[b0, b1, b2, b3] := by
  simp [quad]

lemma size_ofFile (bytes : ByteArray) : (ofFile bytes).size = bytes.size / fileBytes := by
  simp [ofFile]

/-- Words read from a file are written back as the same bytes. -/
theorem toFile_ofFile {bytes : ByteArray} (whole : bytes.size % fileBytes = 0) :
    toFile (ofFile bytes) = bytes := by
  have size : (toFile (ofFile bytes)).size = bytes.size := by
    rw [size_toFile, size_ofFile, Nat.mul_div_cancel' (Nat.dvd_of_mod_eq_zero whole)]
  apply ByteArray.ext
  apply Array.ext_getElem?
  intro position
  by_cases inside : position < bytes.size
  · have word : position / fileBytes < (ofFile bytes).toList.length := by
      rw [Array.length_toList, size_ofFile]
      have count := Nat.div_mul_cancel (Nat.dvd_of_mod_eq_zero whole)
      exact (Nat.div_lt_iff_lt_mul (by decide)).mpr (by omega)
    have byte : position % fileBytes < fileBytes := Nat.mod_lt _ (by decide)
    rw [← Array.getElem?_toList, toList_toFile, ← Nat.div_add_mod position fileBytes,
      getElem?_flatMap_quad _ word byte]
    have read : (ofFile bytes).toList[position / fileBytes]
        = ofBytes (bytes.data.getD (fileBytes * (position / fileBytes) + 3) 0)
            (bytes.data.getD (fileBytes * (position / fileBytes) + 2) 0)
            (bytes.data.getD (fileBytes * (position / fileBytes) + 1) 0)
            (bytes.data.getD (fileBytes * (position / fileBytes) + 0) 0) := by
      simp [ofFile]
    have found : bytes.data[fileBytes * (position / fileBytes) + position % fileBytes]?
        = some (bytes.data.getD
            (fileBytes * (position / fileBytes) + position % fileBytes) 0) := by
      rw [Array.getD_eq_getD_getElem?, Nat.div_add_mod]
      have below : position < bytes.data.size := inside
      rw [Array.getElem?_eq_getElem below, Option.getD_some]
    rw [read, quad_ofBytes, found]
    -- which of the four bytes of the word it is
    generalize position % fileBytes = k at byte
    rcases k with _ | _ | _ | _ | k
    · rfl
    · rfl
    · rfl
    · rfl
    · change k + 4 < 4 at byte
      omega
  · have outside : bytes.data.size ≤ position := Nat.le_of_not_lt inside
    have outside' : (toFile (ofFile bytes)).data.size ≤ position := size.trans_le outside
    rw [Array.getElem?_eq_none outside, Array.getElem?_eq_none outside']

lemma ofFile?_eq_some_iff {bytes : ByteArray} {words : Array Word} :
    ofFile? bytes = some words ↔ bytes.size % fileBytes = 0 ∧ ofFile bytes = words := by
  rw [ofFile?, Option.ite_none_right_eq_some, Option.some.injEq]

lemma isSome_ofFile?_iff (bytes : ByteArray) :
    (ofFile? bytes).isSome ↔ bytes.size % fileBytes = 0 := by
  simp [ofFile?]

/-- Zeros are written as zeros. -/
lemma toList_toFile_append_zeros (words : Array Word) (count : Nat) :
    (toFile (words ++ Array.replicate count 0)).data.toList
      = (toFile words).data.toList ++ List.replicate (fileBytes * count) 0 := by
  have zeros : (List.replicate count (0 : Word)).flatMap (fun word => (quad word).toList)
      = List.replicate (fileBytes * count) 0 := by
    induction count with
    | zero => rfl
    | succ count ih =>
      rw [List.replicate_succ, List.flatMap_cons, ih, Nat.mul_succ, Nat.add_comm,
        ← List.replicate_append_replicate]
      rfl
  rw [toList_toFile, toList_toFile, Array.toList_append, Array.toList_replicate,
    List.flatMap_append, zeros]

end Word

namespace DiskImage

/-! ## Blocks and words -/

lemma toList_ofFn {n : Nat} (word : Nat → Word) :
    (Vector.ofFn fun i : Fin n => word i).toList = (List.range n).map word := by
  apply List.ext_getElem <;> simp

lemma toList_chunk (program : Array Word) (i : Nat) :
    (chunk program i).toList
      = (List.range blockWords).map fun offset => program.getD (blockWords * i + offset) 0 := by
  rw [chunk, Block.ofWords, toList_ofFn fun offset => Array.getD _ offset 0]
  refine List.map_congr_left fun offset inside => ?_
  have below : offset < blockWords := List.mem_range.mp inside
  simp only [Array.getD_eq_getD_getElem?, Array.getElem?_extract]
  split_ifs with here
  · rfl
  · rw [Array.getElem?_eq_none (by rw [Nat.mul_succ] at here; omega)]

/-- The pieces of a program, one after the other. -/
lemma flatMap_chunk (program : Array Word) (count : Nat) :
    ((List.range count).flatMap fun i => (chunk program i).toList)
      = (List.range (blockWords * count)).map fun offset => program.getD offset 0 := by
  induction count with
  | zero => rfl
  | succ count ih =>
    rw [List.range_succ, List.flatMap_append, ih, List.flatMap_cons, List.flatMap_nil,
      List.append_nil, toList_chunk, Nat.mul_succ, List.range_add, List.map_append, List.map_map]
    rfl

/-- Reading on past the end of a program gives zeros. -/
lemma map_getD_range (program : Array Word) {length : Nat} (enough : program.size ≤ length) :
    ((List.range length).map fun offset => program.getD offset 0)
      = program.toList ++ List.replicate (length - program.size) 0 := by
  apply List.ext_getElem
  · simp only [List.length_map, List.length_range, List.length_append, Array.length_toList,
      List.length_replicate]
    omega
  · intro offset inside inside'
    rw [List.getElem_map, List.getElem_range, List.getElem_append, Array.getD_eq_getD_getElem?]
    split_ifs with here
    · have below : offset < program.size := by simpa using here
      simp [below]
    · have past : program.size ≤ offset := by simpa using here
      simp [Array.getElem?_eq_none past]

/-- The words of the first `count` blocks after block 0. -/
def dataWords (image : DiskImage) (count : Nat) : Array Word :=
  ((List.range count).flatMap fun i => (image.read (i + 1)).toList).toArray

/-! ## The image of a program -/

/-- An image that holds a program in `count` blocks, and nothing else. -/
structure Packs (program : Array Word) (count : Nat) (image : DiskImage) : Prop where
  /-- Block 0 records how many blocks there are. -/
  recorded : image.programBlocks.toInt = count
  /-- They hold the program, and zeros after it. -/
  data : image.dataWords count
    = program ++ Array.replicate (blockWords * count - program.size) 0
  /-- Every other word is zero, but for the one that records their number. -/
  rest : ∀ (index : Nat) (i : Fin blockWords), (image.read index).get i ≠ 0 →
    index = 0 ∧ (i : Nat) = 0 ∨ 1 ≤ index ∧ index ≤ count

/-- Blocks stored one after the other from block 1 on. -/
lemma read_foldl_store (image : DiskImage) (block : Nat → Block) (count index : Nat) :
    ((List.range count).foldl (fun image i => image.store (i + 1) (block i)) image).read index
      = if 1 ≤ index ∧ index ≤ count then block (index - 1) else image.read index := by
  induction count with
  | zero => rw [if_neg (by omega)]; rfl
  | succ count ih =>
    rw [List.range_succ, List.foldl_append, List.foldl_cons, List.foldl_nil, read_store, ih]
    by_cases last : count + 1 = index
    · rw [if_pos last, if_pos (by omega), ← last, Nat.add_sub_cancel]
    · rw [if_neg last]
      exact if_congr (by omega) rfl rfl

lemma ofProgram?_eq_ok_iff {capacity : Nat} {program : Array Word} {image : DiskImage} :
    ofProgram? capacity program = .ok image
      ↔ (blocksFor program.size < capacity ∧ blocksFor program.size ≤ maxProgramBlocks)
        ∧ (List.range (blocksFor program.size)).foldl
            (fun image i => image.store (i + 1) (chunk program i))
            ((blank capacity).store 0
              (Block.ofWords #[Int32.ofNat (blocksFor program.size)])) = image := by
  simp only [ofProgram?]
  split_ifs with room
  · rw [Except.ok.injEq]
    exact (and_iff_right room).symm
  · constructor
    · intro refused
      contradiction
    · intro packs
      exact absurd packs.1 room

lemma capacity_ofProgram? {capacity : Nat} {program : Array Word} {image : DiskImage}
    (packs : ofProgram? capacity program = .ok image) : image.capacity = capacity := by
  obtain ⟨-, rfl⟩ := ofProgram?_eq_ok_iff.mp packs
  have kept (numbers : List Nat) (start : DiskImage) :
      (numbers.foldl (fun image i => image.store (i + 1) (chunk program i)) start).capacity
        = start.capacity := by
    induction numbers generalizing start with
    | nil => rfl
    | cons number numbers ih => rw [List.foldl_cons, ih, capacity_store]
  rw [kept, capacity_store]
  rfl

lemma get_ofWords (words : Array Word) (i : Fin blockWords) :
    (Block.ofWords words).get i = words.getD i 0 := by
  change (Block.ofWords words)[i] = _
  simp [Block.ofWords]

lemma get_ofWords_single (word : Word) (i : Fin blockWords) :
    (Block.ofWords #[word]).get i = if (i : Nat) = 0 then word else 0 := by
  rw [get_ofWords]
  cases (i : Nat) <;> rfl

lemma size_le_blocksFor (size : Nat) : size ≤ blockWords * blocksFor size :=
  (Nat.lt_mul_div_succ size (Nat.succ_pos 4095)).le

/-- **A packed program is an image that holds it and nothing else.** -/
theorem packs_ofProgram? {capacity : Nat} {program : Array Word} {image : DiskImage}
    (packs : ofProgram? capacity program = .ok image) :
    image.Packs program (blocksFor program.size) := by
  obtain ⟨⟨-, countable⟩, rfl⟩ := ofProgram?_eq_ok_iff.mp packs
  have enough := size_le_blocksFor program.size
  refine ⟨?_, ?_, ?_⟩
  · have first : (0 : Nat) < blockWords := Nat.succ_pos 4095
    have header := get_ofWords_single (Int32.ofNat (blocksFor program.size)) ⟨0, first⟩
    rw [programBlocks, read_foldl_store, if_neg (by omega), read_store, if_pos rfl]
    refine (congrArg Int32.toInt header).trans ?_
    have largest : maxProgramBlocks = 2147483647 := rfl
    rw [if_pos rfl, Int32.toInt_ofNat_of_lt (by omega)]
  · apply Array.toList_inj.mp
    rw [dataWords, Array.toList_append, Array.toList_replicate, ← map_getD_range program enough,
      ← flatMap_chunk]
    refine List.flatMap_congr fun i inside => ?_
    have below : i < blocksFor program.size := List.mem_range.mp inside
    rw [read_foldl_store, if_pos (by omega), Nat.add_sub_cancel]
  · intro index i nonzero
    rw [read_foldl_store] at nonzero
    split_ifs at nonzero with inside
    · exact Or.inr inside
    · rw [read_store] at nonzero
      split_ifs at nonzero with zeroth
      · rw [get_ofWords_single] at nonzero
        refine Or.inl ⟨zeroth.symm, ?_⟩
        by_contra later
        exact nonzero (if_neg later)
      · exact absurd (Vector.getElem_replicate i.isLt) nonzero

/-- The bytes of a program are in its blocks, and zeros after them. -/
lemma Packs.bytes {program : Array Word} {count : Nat} {image : DiskImage}
    (packs : image.Packs program count) {bytes : ByteArray}
    (reads : Word.ofFile? bytes = some program) :
    (Word.toFile (image.dataWords count)).data.toList
      = bytes.data.toList ++ List.replicate (blockFileBytes * count - bytes.size) 0 := by
  obtain ⟨whole, rfl⟩ := Word.ofFile?_eq_some_iff.mp reads
  have words : blockFileBytes * count - bytes.size
      = Word.fileBytes * (blockWords * count - (Word.ofFile bytes).size) := by
    conv_lhs => rw [← Word.toFile_ofFile whole, Word.size_toFile]
    rw [Nat.mul_sub, ← Nat.mul_assoc]
    rfl
  rw [packs.data, Word.toList_toFile_append_zeros, Word.toFile_ofFile whole, words]

/-! ## Saving and loading -/

section
variable {tree : FileTree} {directory : String} {image : DiskImage}

/-- Once the directory has been created, as far as it does not exist, it has nothing in it. -/
structure StartsEmpty (tree : FileTree) (directory : String) : Prop where
  created : tree.outcome (createDirectories directory) = (.ok (), tree.withDirectory directory)
  empty : (tree.withDirectory directory).Holding directory []

/-- The path of every file that the image is saved to can be followed. -/
def PathsFit (image : DiskImage) (directory : String) : Prop :=
  ∀ index ∈ image.stored,
    (joinPath directory (blockFileName index)).utf8ByteSize ≤ FileTree.pathLimit

/-- An image saved to an empty directory is loaded from it again. -/
theorem load_after_save_empty (tidy : image.Tidy) (addressable : image.capacity ≤ maxUnsigned64)
    (starts : StartsEmpty tree directory) (fits : image.PathsFit directory) :
    ∃ saved, tree.outcome (image.save directory) = (.ok (), saved)
      ∧ saved.outcome (load directory image.capacity) = (.ok image, saved) := by
  obtain ⟨saved, files, hsaved, held, whole, blocks⟩ := save_of_holding tidy addressable
    starts.created starts.empty (blockFiles_nil directory image.capacity) fits
  obtain ⟨loaded, hloaded, tidy', capacity, read⟩ := load_of_holding held whole addressable
  have same : loaded = image := by
    refine tidy'.ext tidy capacity fun index below => ?_
    rw [capacity] at below
    rw [read index below, blocks index below, fileBlock_nil]
    by_cases kept : index ∈ image.stored
    · rw [if_pos kept]
    · rw [if_neg kept, (tidy.read_eq_zeros_iff index).mpr kept]
  exact ⟨saved, hsaved, same ▸ hloaded⟩

end

/-! ## From the bytes of a program to its files and back -/

/-- **Packing a program loses nothing.**  Any whole number of words can be packed if the disk has
room for it; the image holds the program, and saved to an empty directory it is loaded again, so
that the blocks of the program have its bytes in them and zeros after these. -/
theorem packing_loses_nothing (bytes : ByteArray) (capacity : Nat) :
    ((Word.ofFile? bytes).isSome ↔ bytes.size % 4 = 0)
      ∧ ∀ program, Word.ofFile? bytes = some program →
        ((∃ image, ofProgram? capacity program = .ok image)
            ↔ program.size / blockWords + 1 < capacity
              ∧ program.size / blockWords + 1 ≤ 2147483647)
        ∧ ∀ image, ofProgram? capacity program = .ok image →
          image.Packs program (program.size / blockWords + 1)
          ∧ ∀ tree directory, capacity ≤ maxUnsigned64 → StartsEmpty tree directory →
              image.PathsFit directory →
            ∃ saved loaded, tree.outcome (image.save directory) = (.ok (), saved)
              ∧ saved.outcome (load directory capacity) = (.ok loaded, saved)
              ∧ loaded = image
              ∧ (Word.toFile (loaded.dataWords (program.size / blockWords + 1))).data.toList
                = bytes.data.toList
                  ++ List.replicate
                      (blockFileBytes * (program.size / blockWords + 1) - bytes.size) 0 := by
  refine ⟨Word.isSome_ofFile?_iff bytes, fun program reads => ⟨⟨?_, ?_⟩, fun image packs => ?_⟩⟩
  · rintro ⟨image, packs⟩
    exact (ofProgram?_eq_ok_iff.mp packs).1
  · intro room
    exact ⟨_, ofProgram?_eq_ok_iff.mpr ⟨room, rfl⟩⟩
  have holds : image.Packs program (program.size / blockWords + 1) := packs_ofProgram? packs
  refine ⟨holds, fun tree directory addressable starts fits => ?_⟩
  obtain rfl := capacity_ofProgram? packs
  obtain ⟨saved, hsaved, hloaded⟩ :=
    load_after_save_empty (tidy_ofProgram? packs) addressable starts fits
  exact ⟨saved, image, hsaved, hloaded, rfl, holds.bytes reads⟩

lemma startsEmpty_d : StartsEmpty FileTree.empty "d" where
  created := createDirectories_d.1
  empty := createDirectories_d.2

/-- The bytes of a program that fills one block and does nothing. -/
def blankProgram : ByteArray := ⟨Array.replicate 16384 0⟩

/-- The case of a program of zeros that fills its block exactly: it is given two blocks, of which
none is kept. -/
theorem packing_loses_nothing_blank :
    ∃ program image saved,
      Word.ofFile? blankProgram = some program ∧ program.size / blockWords + 1 = 2
        ∧ ofProgram? 4 program = .ok image ∧ image.Packs program 2
        ∧ StartsEmpty FileTree.empty "d" ∧ image.PathsFit "d"
        ∧ FileTree.empty.outcome (image.save "d") = (.ok (), saved)
        ∧ saved.outcome (load "d" 4) = (.ok image, saved) := by
  have whole : blankProgram.size = 16384 := Array.size_replicate
  obtain ⟨readable, packing⟩ := packing_loses_nothing blankProgram 4
  obtain ⟨program, reads⟩ := Option.isSome_iff_exists.mp (readable.mpr (by rw [whole]))
  obtain ⟨packable, packed⟩ := packing program reads
  have size : program.size / blockWords + 1 = 2 := by
    rw [← (Word.ofFile?_eq_some_iff.mp reads).2, Word.size_ofFile, whole]
    rfl
  rw [size] at packable packed
  obtain ⟨image, packs⟩ := packable.mpr (by decide)
  have fits : image.PathsFit "d" := fun index kept =>
    fits_inside_d index (capacity_ofProgram? packs
      ▸ (tidy_ofProgram? packs).below_of_stored kept)
  obtain ⟨holds, saving⟩ := packed image packs
  obtain ⟨saved, loaded, hsaved, hloaded, rfl, -⟩ :=
    saving FileTree.empty "d" (by decide) startsEmpty_d fits
  exact ⟨program, loaded, saved, reads, size, packs, holds, startsEmpty_d, fits, hsaved, hloaded⟩

end DiskImage

end PipelinedMachine
