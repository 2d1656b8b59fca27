import PipelinedMachine.Proofs.Disk.Loading

/-!
# Saving an image over another

Saving writes the blocks that an image keeps and touches no other file.  A directory that held an
image before thus holds a mixture afterwards: the blocks that the new image keeps, and where it
keeps none, whatever the old files say.

* `DiskImage.saveBlocks_of_holding` — the files of a directory after some blocks have been written;
* `DiskImage.save_of_holding` — the same for all blocks of an image;
* `DiskImage.fits_of_save` — a save that succeeds has found every path short enough.

Main statement: `DiskImage.load_after_save`, what is loaded from a directory to which an image was
saved, and that it is the image exactly when no file of a block of zeros was left over.
`DiskImage.zeroed_block_comes_back` is the case of a block that has become all zeros.
-/

namespace PipelinedMachine

open FileTree FileNode

namespace DiskImage

/-! ## One block -/

lemma outcome_saveBlock (tree : FileTree) (directory : String) (index : Nat) (block : Block) :
    tree.outcome (saveBlock directory index block)
      = match tree.writeFile (joinPath directory (blockFileName index))
          (Word.toFile block.toArray) with
        | .ok changed => (.ok (), changed)
        | .error error =>
          (.error (.access (joinPath directory (blockFileName index)) error), tree) := by
  rw [saveBlock, outcome_accessing, outcome_writeFile]
  cases tree.writeFile (joinPath directory (blockFileName index)) (Word.toFile block.toArray) <;>
    rfl

lemma ofWords_toArray (block : Block) : Block.ofWords block.toArray = block := by
  ext i hi
  simp [Block.ofWords, Array.getD_eq_getD_getElem?]

lemma size_toFile_block (block : Block) :
    (Word.toFile block.toArray).size = blockFileBytes := by
  rw [Word.size_toFile, block.size_toArray]
  rfl

lemma blockFileName_inj {index other : Nat} (hindex : index ≤ maxUnsigned64)
    (hother : other ≤ maxUnsigned64) (h : blockFileName index = blockFileName other) :
    index = other := by
  have same := blockIndex?_blockFileName hindex
  rw [h, blockIndex?_blockFileName hother] at same
  exact (Option.some.inj same).symm

/-- A block that is written is in its file, and all others stay as they are. -/
lemma fileBlock_putEntry (entries : List (String × FileNode)) {index other : Nat}
    (hindex : index ≤ maxUnsigned64) (hother : other ≤ maxUnsigned64) (block : Block) :
    fileBlock (putEntry (blockFileName index) (.file (Word.toFile block.toArray)) entries) other
      = if other = index then block else fileBlock entries other := by
  rw [fileBlock, lookup_putEntry]
  by_cases h : other = index
  · rw [if_pos (congrArg blockFileName h), if_pos h]
    simp only
    rw [Word.ofFile_toFile, ofWords_toArray]
  · rw [if_neg fun heq => h (blockFileName_inj hother hindex heq), if_neg h, fileBlock]

section
variable {tree : FileTree} {directory : String} {capacity : Nat}
  {entries : List (String × FileNode)}

lemma BlockFiles.putEntry (files : BlockFiles directory capacity entries)
    (addressable : capacity ≤ maxUnsigned64) {index : Nat} (below : index < capacity)
    (fits : (joinPath directory (blockFileName index)).utf8ByteSize ≤ pathLimit) (block : Block) :
    BlockFiles directory capacity
      (putEntry (blockFileName index) (.file (Word.toFile block.toArray)) entries) := by
  intro entry hentry number hnumber
  rcases mem_putEntry hentry with rfl | hentry
  · have own : number = index := by
      rw [blockIndex?_blockFileName ((below.trans_le addressable).le)]
        at hnumber
      exact (Option.some.inj hnumber).symm
    subst own
    exact ⟨rfl, below, ⟨_, rfl, size_toFile_block block⟩, fits⟩
  · exact files entry hentry number hnumber

lemma saveBlock_of_holding (held : tree.Holding directory entries)
    (files : BlockFiles directory capacity entries) (addressable : capacity ≤ maxUnsigned64)
    {index : Nat} (below : index < capacity)
    (fits : (joinPath directory (blockFileName index)).utf8ByteSize ≤ pathLimit) (block : Block) :
    ∃ changed, tree.outcome (saveBlock directory index block) = (.ok (), changed)
      ∧ changed.Holding directory
          (putEntry (blockFileName index) (.file (Word.toFile block.toArray)) entries) := by
  have small : index ≤ maxUnsigned64 := (below.trans_le addressable).le
  have free : ∀ inner, entries.lookup (blockFileName index) ≠ some (.directory inner) := by
    intro inner hinner
    obtain ⟨contents, hcontents, -⟩ :=
      (files _ (mem_of_lookup hinner) index (blockIndex?_blockFileName small)).whole
    cases hcontents
  obtain ⟨changed, hwritten, hheld⟩ :=
    held.writeFile (plainName_blockFileName small) fits free (Word.toFile block.toArray)
  exact ⟨changed, by rw [outcome_saveBlock, hwritten], hheld⟩

/-! ## All blocks -/

lemma saveBlocks_of_holding (addressable : capacity ≤ maxUnsigned64) {blocks : List (Nat × Block)}
    (below : ∀ kept ∈ blocks, kept.1 < capacity)
    (fits : ∀ kept ∈ blocks,
      (joinPath directory (blockFileName kept.1)).utf8ByteSize ≤ pathLimit)
    (distinct : blocks.Pairwise fun kept other => kept.1 ≠ other.1)
    (held : tree.Holding directory entries) (files : BlockFiles directory capacity entries) :
    ∃ changed after,
      tree.outcome (blocks.forM fun kept => saveBlock directory kept.1 kept.2) = (.ok (), changed)
      ∧ changed.Holding directory after ∧ BlockFiles directory capacity after
      ∧ ∀ index < capacity,
          fileBlock after index = (blocks.lookup index).getD (fileBlock entries index) := by
  induction blocks generalizing tree entries with
  | nil => exact ⟨tree, entries, rfl, held, files, fun index _ => rfl⟩
  | cons kept blocks ih =>
      have hbelow := below kept List.mem_cons_self
      have hfits := fits kept List.mem_cons_self
      have small : ∀ index < capacity, index ≤ maxUnsigned64 :=
        fun index h => (h.trans_le addressable).le
      obtain ⟨middle, hmiddle, hheld⟩ :=
        saveBlock_of_holding held files addressable hbelow hfits kept.2
      obtain ⟨changed, after, hchanged, hafter, hfiles, hread⟩ :=
        ih (fun other h => below other (List.mem_cons_of_mem _ h))
          (fun other h => fits other (List.mem_cons_of_mem _ h))
          (List.pairwise_cons.mp distinct).2 hheld
          (files.putEntry addressable hbelow hfits kept.2)
      refine ⟨changed, after, ?_, hafter, hfiles, fun index h => ?_⟩
      · show tree.outcome (saveBlock directory kept.1 kept.2 >>= fun _ => blocks.forM _) = _
        rw [outcome_bind, hmiddle]
        exact hchanged
      · rw [hread index h, fileBlock_putEntry entries (small _ hbelow) (small index h)]
        rw [lookup_cons_eq]
        by_cases heq : index = kept.1
        · -- the block is not written a second time
          have hnone : blocks.lookup index = none := by
            rw [List.lookup_eq_none_iff]
            intro other hother
            simpa [heq] using (List.pairwise_cons.mp distinct).1 other hother
          rw [if_pos heq, if_pos heq, hnone]
          rfl
        · rw [if_neg heq, if_neg heq]

lemma fits_of_saveBlocks {blocks : List (Nat × Block)} {changed : FileTree}
    (saved : tree.outcome (blocks.forM fun kept => saveBlock directory kept.1 kept.2)
      = (.ok (), changed)) :
    ∀ kept ∈ blocks, (joinPath directory (blockFileName kept.1)).utf8ByteSize ≤ pathLimit := by
  induction blocks generalizing tree with
  | nil => simp
  | cons first blocks ih =>
      have saved : tree.outcome (saveBlock directory first.1 first.2 >>= fun _ =>
          blocks.forM fun kept => saveBlock directory kept.1 kept.2) = (.ok (), changed) := saved
      rw [outcome_bind, outcome_saveBlock] at saved
      cases hwritten : tree.writeFile (joinPath directory (blockFileName first.1))
          (Word.toFile first.2.toArray) with
      | error error => simp [hwritten] at saved
      | ok middle =>
          rw [hwritten] at saved
          intro kept hkept
          rcases List.mem_cons.mp hkept with rfl | hkept
          · exact size_le_of_writeFile hwritten
          · exact ih saved kept hkept

end

lemma lookup_toList_blocks (image : DiskImage) (index : Nat) :
    image.blocks.toList.lookup index = image.blocks[index]? := by
  apply Option.ext
  intro block
  rw [← Std.ExtTreeMap.mem_toList_iff_getElem?_eq_some]
  constructor
  · intro h
    obtain ⟨before, after, hlist, -⟩ := List.lookup_eq_some_iff.mp h
    simp [hlist]
  · intro h
    cases hlookup : image.blocks.toList.lookup index with
    | none => simpa using List.lookup_eq_none_iff.mp hlookup _ h
    | some found =>
        obtain ⟨before, after, hlist, -⟩ := List.lookup_eq_some_iff.mp hlookup
        have hfound : (index, found) ∈ image.blocks.toList := by simp [hlist]
        rw [Std.ExtTreeMap.mem_toList_iff_getElem?_eq_some] at h hfound
        exact hfound.symm.trans h

lemma mem_stored_of_mem_blocks {image : DiskImage} {kept : Nat × Block}
    (h : kept ∈ image.blocks.toList) : kept.1 ∈ image.stored := by
  rw [mem_stored_iff, Std.ExtTreeMap.mem_toList_iff_getElem?_eq_some.mp h]
  rfl

section
variable {image : DiskImage} {tree made saved : FileTree} {directory : String}
  {old : List (String × FileNode)}

/-- The files of a directory to which an image has been saved. -/
theorem save_of_holding (tidy : image.Tidy) (addressable : image.capacity ≤ maxUnsigned64)
    (created : tree.outcome (createDirectories directory) = (.ok (), made))
    (held : made.Holding directory old) (files : BlockFiles directory image.capacity old)
    (fits : ∀ index ∈ image.stored,
      (joinPath directory (blockFileName index)).utf8ByteSize ≤ pathLimit) :
    ∃ saved after, tree.outcome (image.save directory) = (.ok (), saved)
      ∧ saved.Holding directory after ∧ BlockFiles directory image.capacity after
      ∧ ∀ index < image.capacity, fileBlock after index
          = if index ∈ image.stored then image.read index else fileBlock old index := by
  have distinct : image.blocks.toList.Pairwise fun kept other => kept.1 ≠ other.1 :=
    Std.ExtTreeMap.distinct_keys_toList.imp fun h heq => h (by simp [heq])
  obtain ⟨saved, after, hsaved, hheld, hfiles, hread⟩ := saveBlocks_of_holding addressable
    (fun kept h => tidy.below kept.1 kept.2 (Std.ExtTreeMap.mem_toList_iff_getElem?_eq_some.mp h))
    (fun kept h => fits kept.1 (mem_stored_of_mem_blocks h)) distinct held files
  refine ⟨saved, after, ?_, hheld, hfiles, fun index h => ?_⟩
  · rw [save, outcome_bind, outcome_accessing, created]
    exact hsaved
  · rw [hread index h, lookup_toList_blocks]
    cases hblock : image.blocks[index]? with
    | none => rw [if_neg (by simp [mem_stored_iff, hblock]), Option.getD_none]
    | some block => simp [mem_stored_iff, read, hblock]

/-- A save that succeeds has created the directory and found every path short enough. -/
lemma fits_of_save (success : tree.outcome (image.save directory) = (.ok (), saved)) :
    tree.outcome (createDirectories directory) = (.ok (), tree.withDirectory directory)
      ∧ ∀ index ∈ image.stored,
          (joinPath directory (blockFileName index)).utf8ByteSize ≤ pathLimit := by
  have hmade : (tree.outcome (createDirectories directory)).2 = tree.withDirectory directory := rfl
  rw [save, outcome_bind, outcome_accessing] at success
  rcases hcreated : tree.outcome (createDirectories directory) with ⟨error | ⟨⟩, made⟩
  · simp [hcreated, Except.mapError] at success
  · rw [hcreated] at success hmade
    refine ⟨by rw [← hmade], fun index h => ?_⟩
    obtain ⟨block, hblock⟩ := Option.isSome_iff_exists.mp (mem_stored_iff.mp h)
    exact fits_of_saveBlocks success (index, block)
      (Std.ExtTreeMap.mem_toList_iff_getElem?_eq_some.mpr hblock)

/-- An image is loaded from a directory exactly when each block without a word has no file, or one
without a word. -/
lemma Tidy.eq_iff_of_mixed {loaded : DiskImage} (tidy : image.Tidy) (tidy' : loaded.Tidy)
    (capacity : loaded.capacity = image.capacity)
    (mixed : ∀ index < image.capacity, loaded.read index
      = if index ∈ image.stored then image.read index else fileBlock old index) :
    loaded = image ↔ ∀ index < image.capacity,
      image.read index = Block.zeros → fileBlock old index = Block.zeros := by
  constructor
  · rintro rfl index h hzero
    rw [← hzero, mixed index h, if_neg ((tidy.read_eq_zeros_iff index).mp hzero)]
  -- a block that is not kept reads as zeros, so its old file has to
  · intro clean
    refine tidy'.ext tidy capacity fun index h => ?_
    rw [capacity] at h
    rw [mixed index h]
    by_cases hstored : index ∈ image.stored
    · rw [if_pos hstored]
    · have hzero := (tidy.read_eq_zeros_iff index).mpr hstored
      rw [if_neg hstored, hzero, clean index h hzero]

/-- What is loaded from a directory to which an image was saved.  `old` is what the directory holds
once it exists, before any block is written; where the image keeps no block, the old file counts. -/
theorem load_after_save (reachable : image.Reachable)
    (addressable : image.capacity ≤ maxUnsigned64) (grounded : tree.Grounded)
    (found : (tree.withDirectory directory).lookup directory = .ok (.directory old))
    (files : BlockFiles directory image.capacity old)
    (success : tree.outcome (image.save directory) = (.ok (), saved)) :
    ∃ loaded, saved.outcome (load directory image.capacity) = (.ok loaded, saved)
      ∧ loaded.capacity = image.capacity
      ∧ (∀ index < image.capacity, loaded.read index
          = if index ∈ image.stored then image.read index else fileBlock old index)
      ∧ (loaded = image ↔ ∀ index < image.capacity,
          image.read index = Block.zeros → fileBlock old index = Block.zeros) := by
  have held : (tree.withDirectory directory).Holding directory old :=
    ⟨(grows_withDirectory tree directory).grounded grounded, found⟩
  obtain ⟨created, fits⟩ := fits_of_save success
  obtain ⟨saved', after, hsaved, hheld, hfiles, hblocks⟩ :=
    save_of_holding reachable.tidy addressable created held files fits
  obtain rfl : saved = saved' := (Prod.mk.inj (success.symm.trans hsaved)).2
  obtain ⟨loaded, hloaded, tidy, hcapacity, hread⟩ := load_of_holding hheld hfiles addressable
  have mixed : ∀ index < image.capacity, loaded.read index
      = if index ∈ image.stored then image.read index else fileBlock old index :=
    fun index h => (hread index h).trans (hblocks index h)
  exact ⟨loaded, hloaded, hcapacity, mixed,
    reachable.tidy.eq_iff_of_mixed tidy hcapacity mixed⟩

end

/-! ## Files left over -/

/-- A block with one word in it. -/
def nineBlock : Block := Block.ofWords #[9]

lemma nineBlock_ne_zeros : nineBlock ≠ Block.zeros := by
  intro h
  have first : nineBlock[0] = Block.zeros[0] := by rw [h]
  simp [nineBlock, Block.ofWords, Block.zeros] at first

/-- A tree with one directory, in which block 2 has a file. -/
def leftOver (contents : ByteArray) : FileTree where
  root := .directory [("d", .directory [("2.block", .file contents)])]
  workingDirectory := []

lemma plainName_d : PlainName "d" where
  nonempty := by decide
  slash := by decide
  nul := by decide
  dot := by decide
  dots := by decide
  short := by decide

lemma holding_leftOver (contents : ByteArray) :
    (leftOver contents).Holding "d" [("2.block", .file contents)] :=
  Holding.of_name rfl plainName_d rfl

/-- The working directory of a new file system has no directory `d` until it is created. -/
lemma createDirectories_d :
    FileTree.empty.outcome (createDirectories "d") = (.ok (), FileTree.empty.withDirectory "d")
      ∧ (FileTree.empty.withDirectory "d").Holding "d" [] :=
  Holding.of_missing rfl plainName_d rfl

lemma fits_inside_d : ∀ index < 4,
    (joinPath "d" (blockFileName index)).utf8ByteSize ≤ pathLimit := by
  decide +kernel

lemma fileBlock_nil (index : Nat) : fileBlock [] index = Block.zeros := by
  rw [fileBlock, List.lookup_nil]

lemma blockFiles_nil (directory : String) (capacity : Nat) :
    BlockFiles directory capacity [] := by
  intro entry hentry
  simp at hentry

theorem load_after_save_over_block_two :
    ∃ saved loaded,
      (leftOver (Word.toFile nineBlock.toArray)).outcome (((blank 4).store 3 nineBlock).save "d")
        = (.ok (), saved)
      ∧ saved.outcome (load "d" 4) = (.ok loaded, saved)
      ∧ loaded.read 2 = nineBlock ∧ loaded.read 3 = nineBlock
      ∧ loaded ≠ (blank 4).store 3 nineBlock := by
  have reachable : ((blank 4).store 3 nineBlock).Reachable :=
    @Reachable.write _ _ 3 nineBlock (.blank 4) rfl
  have held := holding_leftOver (Word.toFile nineBlock.toArray)
  have created := outcome_createDirectories held.found
  have files : BlockFiles "d" 4 [("2.block", .file (Word.toFile nineBlock.toArray))] :=
    (blockFiles_nil "d" 4).putEntry (by decide) (by decide) (fits_inside_d 2 (by decide)) nineBlock
  have fits : ∀ index ∈ ((blank 4).store 3 nineBlock).stored,
      (joinPath "d" (blockFileName index)).utf8ByteSize ≤ pathLimit :=
    fun index h => fits_inside_d index (reachable.tidy.below_of_stored h)
  obtain ⟨saved, -, hsaved, -⟩ :=
    save_of_holding reachable.tidy (by decide) created held files fits
  have withDirectory : (leftOver (Word.toFile nineBlock.toArray)).withDirectory "d"
      = leftOver (Word.toFile nineBlock.toArray) := congrArg Prod.snd created
  obtain ⟨loaded, hloaded, -, mixed, same⟩ := load_after_save reachable (by decide) held.grounded
    (by rw [withDirectory]; exact held.found) files hsaved
  have file : fileBlock [("2.block", .file (Word.toFile nineBlock.toArray))] 2 = nineBlock := by
    have small : 2 ≤ maxUnsigned64 := by decide
    have written := fileBlock_putEntry [] small small nineBlock
    rwa [if_pos rfl] at written
  have unstored : 2 ∉ ((blank 4).store 3 nineBlock).stored := by
    simp [mem_stored_store, not_mem_stored_blank]
  have stored : 3 ∈ ((blank 4).store 3 nineBlock).stored := by
    simp [mem_stored_store, nineBlock_ne_zeros]
  have two : loaded.read 2 = nineBlock := by
    rw [mixed 2 (by decide), if_neg unstored, file]
  refine ⟨saved, loaded, hsaved, hloaded, two, ?_, ?_⟩
  · rw [mixed 3 (by decide), if_pos stored, read_store, if_pos rfl]
  · rintro rfl
    exact nineBlock_ne_zeros (two.symm.trans ((reachable.tidy.read_eq_zeros_iff 2).mpr unstored))

/-- A block is written and the image saved; the block is zeroed and the image saved again; the
image that is then loaded has the block as it was at first. -/
theorem zeroed_block_comes_back :
    ((blank 4).store 2 nineBlock).Reachable
      ∧ (((blank 4).store 2 nineBlock).store 2 Block.zeros).Reachable
      ∧ (blank 4).store 2 nineBlock ≠ ((blank 4).store 2 nineBlock).store 2 Block.zeros
      ∧ ∃ first second,
          FileTree.empty.outcome (((blank 4).store 2 nineBlock).save "d") = (.ok (), first)
          ∧ first.outcome ((((blank 4).store 2 nineBlock).store 2 Block.zeros).save "d")
              = (.ok (), second)
          ∧ second.outcome (load "d" 4) = (.ok ((blank 4).store 2 nineBlock), second) := by
  have written : ((blank 4).store 2 nineBlock).Reachable :=
    @Reachable.write _ _ 2 nineBlock (.blank 4) rfl
  have zeroed : (((blank 4).store 2 nineBlock).store 2 Block.zeros).Reachable :=
    @Reachable.write _ _ 2 Block.zeros written rfl
  have none_stored :
      ∀ index, index ∉ (((blank 4).store 2 nineBlock).store 2 Block.zeros).stored := by
    intro index
    by_cases h : 2 = index <;> simp [mem_stored_store, not_mem_stored_blank, h]
  have one_stored : 2 ∈ ((blank 4).store 2 nineBlock).stored := by
    simp [mem_stored_store, nineBlock_ne_zeros]
  have fits : ∀ index ∈ ((blank 4).store 2 nineBlock).stored,
      (joinPath "d" (blockFileName index)).utf8ByteSize ≤ pathLimit :=
    fun index h => fits_inside_d index (written.tidy.below_of_stored h)
  obtain ⟨created, held⟩ := createDirectories_d
  obtain ⟨first, after, hfirst, hheld, hfiles, hblocks⟩ :=
    save_of_holding written.tidy (by decide) created held (blockFiles_nil "d" 4) fits
  have hfiles : BlockFiles "d" 4 after := hfiles
  obtain ⟨second, after', hsecond, hheld', hfiles', hblocks'⟩ :=
    save_of_holding zeroed.tidy (by decide) (outcome_createDirectories hheld.found) hheld hfiles
      (fun index h => absurd h (none_stored index))
  obtain ⟨loaded, hloaded, tidy, hcapacity, hread⟩ :=
    load_of_holding hheld' hfiles' (by decide)
  have hcapacity : loaded.capacity = 4 := hcapacity
  have back : loaded = (blank 4).store 2 nineBlock := by
    refine tidy.ext written.tidy hcapacity fun index h => ?_
    rw [hcapacity] at h
    rw [hread index h, hblocks' index h, if_neg (none_stored index), hblocks index h]
    by_cases hstored : index ∈ ((blank 4).store 2 nineBlock).stored
    · rw [if_pos hstored]
    · rw [if_neg hstored, fileBlock_nil]
      exact ((written.tidy.read_eq_zeros_iff index).mpr hstored).symm
  refine ⟨written, zeroed, ?_, first, second, hfirst, hsecond, back ▸ hloaded⟩
  intro h
  exact none_stored 2 (h ▸ one_stored)

end DiskImage

end PipelinedMachine
