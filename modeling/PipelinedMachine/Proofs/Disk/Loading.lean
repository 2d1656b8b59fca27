import Mathlib.Data.String.Basic
import PipelinedMachine.Disk.Directory
import PipelinedMachine.Proofs.FileTree.Holding

/-!
# Loading an image

What the image in a directory is, said by the files that stand there.

* `DiskImage.Tidy` — an image that keeps no block of zeros and none beyond its capacity;
* `DiskImage.Reachable` — an image that the operations on images can make;
* `DiskImage.BlockFiles` — a directory whose block files can all be loaded;
* `DiskImage.fileBlock` — the block that the files of a directory give a number.

Main statements: `DiskImage.Tidy.ext`, tidy images are told apart by reading them;
`DiskImage.Reachable.tidy`; `DiskImage.load_of_holding`, loading gives each block what its file
holds.
-/

namespace PipelinedMachine

open FileTree

namespace DiskImage

lemma capacity_store (image : DiskImage) (index : Nat) (block : Block) :
    (image.store index block).capacity = image.capacity := rfl

/-! ## Tidy images -/

/-- An image that keeps no block of zeros and none beyond its capacity. -/
structure Tidy (image : DiskImage) : Prop where
  nonzero : ∀ (index : Nat) (block : Block), image.blocks[index]? = some block → block ≠ Block.zeros
  below : ∀ (index : Nat) (block : Block),
    image.blocks[index]? = some block → index < image.capacity

lemma tidy_blank (capacity : Nat) : (blank capacity).Tidy where
  nonzero index block kept := by simp [blank] at kept
  below index block kept := by simp [blank] at kept

lemma getElem?_blocks_store (image : DiskImage) (index other : Nat) (block : Block) :
    (image.store index block).blocks[other]?
      = if index = other then (if block.isZero then none else some block)
        else image.blocks[other]? := by
  by_cases hzero : block.isZero = true
  · simp [store, hzero, Std.ExtTreeMap.getElem?_erase]
  · simp [store, hzero, Std.ExtTreeMap.getElem?_insert]

lemma Tidy.store {image : DiskImage} (tidy : image.Tidy) {index : Nat}
    (h : index < image.capacity) (block : Block) : (image.store index block).Tidy := by
  refine ⟨fun other kept hkept => ?_, fun other kept hkept => ?_⟩ <;>
    rw [getElem?_blocks_store] at hkept <;> split at hkept
  · split at hkept
    · simp at hkept
    · rename_i hzero
      obtain rfl : block = kept := by simpa using hkept
      rwa [Ne, ← Block.isZero_iff]
  · exact tidy.nonzero other kept hkept
  · rename_i heq
    exact heq ▸ h
  · exact tidy.below other kept hkept

lemma Tidy.write? {image written : DiskImage} (tidy : image.Tidy) {index : Nat} {block : Block}
    (h : image.write? index block = .ok written) :
    written.Tidy ∧ written.capacity = image.capacity := by
  rw [DiskImage.write?] at h
  split at h
  · obtain rfl := Except.ok.inj h
    exact ⟨tidy.store ‹_› block, rfl⟩
  · simp at h

lemma Tidy.foldl_store {image : DiskImage} (tidy : image.Tidy) (block : Nat → Block)
    {numbers : List Nat} (inside : ∀ i ∈ numbers, i + 1 < image.capacity) :
    (numbers.foldl (fun image i => image.store (i + 1) (block i)) image).Tidy := by
  induction numbers generalizing image with
  | nil => exact tidy
  | cons i numbers ih =>
      rw [List.foldl_cons]
      refine ih (tidy.store (inside i List.mem_cons_self) _) fun j hj => ?_
      exact inside j (List.mem_cons_of_mem _ hj)

lemma tidy_ofProgram? {capacity : Nat} {program : Array Word} {image : DiskImage}
    (h : ofProgram? capacity program = .ok image) : image.Tidy := by
  unfold ofProgram? at h
  dsimp only at h
  split at h
  · rename_i hroom
    obtain rfl := Except.ok.inj h
    refine ((tidy_blank capacity).store (Nat.zero_lt_of_lt hroom.1) _).foldl_store _ fun i hi => ?_
    exact Nat.lt_of_le_of_lt (List.mem_range.mp hi) hroom.1
  · simp at h

/-- Tidy images are told apart by reading them. -/
theorem Tidy.ext {image other : DiskImage} (tidy : image.Tidy) (tidy' : other.Tidy)
    (capacity : image.capacity = other.capacity)
    (same : ∀ index < image.capacity, image.read index = other.read index) : image = other := by
  have kept : ∀ {one two : DiskImage}, one.Tidy →
      (∀ index < one.capacity, one.read index = two.read index) →
      ∀ (index : Nat) (block : Block),
        one.blocks[index]? = some block → two.blocks[index]? = some block := by
    intro one two tidy same index block hblock
    have hread := same index (tidy.below index block hblock)
    simp only [read, hblock, Option.getD_some] at hread
    cases htwo : two.blocks[index]? with
    | some found => simpa [htwo] using hread.symm
    | none =>
        rw [htwo, Option.getD_none] at hread
        exact absurd hread (tidy.nonzero index block hblock)
  have blocks : image.blocks = other.blocks := by
    apply Std.ExtTreeMap.ext_getElem?
    intro index
    apply Option.ext
    intro block
    exact ⟨kept tidy same index block,
      kept tidy' (fun index h => (same index (capacity ▸ h)).symm) index block⟩
  cases image
  cases other
  simp_all

lemma mem_stored_iff {image : DiskImage} {index : Nat} :
    index ∈ image.stored ↔ image.blocks[index]?.isSome := by
  rw [stored, Std.ExtTreeMap.mem_keys, Std.ExtTreeMap.mem_iff_isSome_getElem?]

lemma Tidy.below_of_stored {image : DiskImage} (tidy : image.Tidy) {index : Nat}
    (h : index ∈ image.stored) : index < image.capacity := by
  obtain ⟨block, hblock⟩ := Option.isSome_iff_exists.mp (mem_stored_iff.mp h)
  exact tidy.below index block hblock

lemma mem_stored_store {image : DiskImage} {index other : Nat} {block : Block} :
    other ∈ (image.store index block).stored
      ↔ if index = other then block ≠ Block.zeros else other ∈ image.stored := by
  rw [mem_stored_iff, getElem?_blocks_store]
  split
  · rw [Ne, ← Block.isZero_iff]
    by_cases hzero : block.isZero = true <;> simp [hzero]
  · exact mem_stored_iff.symm

lemma not_mem_stored_blank (capacity index : Nat) : index ∉ (blank capacity).stored := by
  simp [mem_stored_iff, blank]

lemma Tidy.read_eq_zeros_iff {image : DiskImage} (tidy : image.Tidy) (index : Nat) :
    image.read index = Block.zeros ↔ index ∉ image.stored := by
  rw [mem_stored_iff, read]
  cases hblock : image.blocks[index]? with
  | none => simp
  | some block => simpa using tidy.nonzero index block hblock

/-! ## Taking up files -/

lemma outcome_accessing {α : Type} (tree : FileTree) (path : String)
    (action : ExceptT FileError (StateM FileTree) α) :
    tree.outcome (accessing path action)
      = ((tree.outcome action).1.mapError (DiskError.access path), (tree.outcome action).2) :=
  outcome_adapt tree (DiskError.access path) action

/-- The image with one name of a directory taken up. -/
def takeUp? (tree : FileTree) (directory : String) (image : DiskImage) (name : String) :
    Except DiskError DiskImage :=
  match blockIndex? name with
  | none => .ok image
  | some index =>
    ((tree.readFile (joinPath directory name)).mapError
      (DiskError.access (joinPath directory name))).bind
        (image.addFile? index (joinPath directory name))

lemma outcome_loadEntry (tree : FileTree) (directory : String) (image : DiskImage)
    (name : String) :
    tree.outcome (loadEntry directory image name)
      = (image.takeUp? tree directory name, tree) := by
  rw [loadEntry, takeUp?]
  cases blockIndex? name with
  | none => rfl
  | some index =>
      simp only [outcome_bind, outcome_accessing, outcome_readFile]
      cases tree.readFile (joinPath directory name) <;> rfl

/-- Loading takes up one name after another and leaves the tree as it is. -/
lemma outcome_load (tree : FileTree) (directory : String) (capacity : Nat) :
    tree.outcome (load directory capacity)
      = (((tree.listDirectory directory).mapError (DiskError.access directory)).bind fun names =>
          names.foldlM (fun image name => image.takeUp? tree directory name) (blank capacity),
        tree) := by
  have fold : ∀ (names : List String) (image : DiskImage),
      tree.outcome (names.foldlM (loadEntry directory) image)
        = (names.foldlM (fun image name => image.takeUp? tree directory name) image, tree) := by
    intro names
    induction names with
    | nil => exact fun image => rfl
    | cons name names ih =>
        intro image
        rw [List.foldlM_cons, List.foldlM_cons, outcome_bind, outcome_loadEntry]
        cases htaken : image.takeUp? tree directory name with
        | error error => rfl
        | ok taken => exact ih taken
  rw [load, outcome_bind, outcome_accessing, outcome_listDirectory]
  cases tree.listDirectory directory with
  | error error => rfl
  | ok names => exact fold names (blank capacity)

lemma Tidy.takeUp? {tree : FileTree} {directory name : String} {image taken : DiskImage}
    (tidy : image.Tidy) (h : image.takeUp? tree directory name = .ok taken) : taken.Tidy := by
  rw [DiskImage.takeUp?] at h
  split at h
  · exact Except.ok.inj h ▸ tidy
  · cases hread : tree.readFile (joinPath directory name) with
    | error error => simp [hread, Except.mapError, Except.bind] at h
    | ok contents =>
        simp only [hread, Except.mapError, Except.bind, addFile?] at h
        split at h
        · exact (tidy.write? h).1
        · simp at h

lemma tidy_of_load {tree after : FileTree} {directory : String} {capacity : Nat}
    {image : DiskImage} (h : tree.outcome (load directory capacity) = (.ok image, after)) :
    image.Tidy := by
  have fold : ∀ (names : List String) (start : DiskImage), start.Tidy →
      names.foldlM (fun image name => image.takeUp? tree directory name) start = .ok image →
      image.Tidy := by
    intro names
    induction names with
    | nil => exact fun start tidy h => Except.ok.inj h ▸ tidy
    | cons name names ih =>
        intro start tidy h
        rw [List.foldlM_cons] at h
        cases htaken : start.takeUp? tree directory name with
        | error error => simp [htaken, bind, Except.bind] at h
        | ok taken =>
            exact ih taken (tidy.takeUp? htaken) (by simpa [htaken, bind, Except.bind] using h)
  rw [outcome_load] at h
  have h := (Prod.mk.inj h).1
  cases hlist : tree.listDirectory directory with
  | error error => simp [hlist, Except.mapError, Except.bind] at h
  | ok names =>
      exact fold names _ (tidy_blank capacity)
        (by simpa [hlist, Except.mapError, Except.bind] using h)

/-! ## Reachable images -/

/-- An image that the operations on images can make. -/
inductive Reachable : DiskImage → Prop
  | blank (capacity : Nat) : Reachable (blank capacity)
  | program {capacity : Nat} {program : Array Word} {image : DiskImage} :
      ofProgram? capacity program = .ok image → Reachable image
  | write {image written : DiskImage} {index : Nat} {block : Block} :
      Reachable image → image.write? index block = .ok written → Reachable written
  | load {tree after : FileTree} {directory : String} {capacity : Nat} {image : DiskImage} :
      tree.outcome (DiskImage.load directory capacity) = (.ok image, after) → Reachable image

theorem Reachable.tidy {image : DiskImage} (reachable : image.Reachable) : image.Tidy := by
  induction reachable with
  | blank capacity => exact tidy_blank capacity
  | program h => exact tidy_ofProgram? h
  | write _ h ih => exact (ih.write? h).1
  | load h => exact tidy_of_load h

/-! ## Block files -/

lemma utf8Len_le (cs : List Char) : String.utf8Len cs ≤ 4 * cs.length := by
  induction cs with
  | nil => simp
  | cons c cs ih =>
      have := c.utf8Size_le_four
      simp only [String.utf8Len_cons, List.length_cons]
      omega

lemma plainName_blockFileName {index : Nat} (h : index ≤ maxUnsigned64) :
    PlainName (blockFileName index) := by
  have hlist : (blockFileName index).toList = Nat.toDigits 10 index ++ ".block".toList := by
    simp [blockFileName, blockExtension]
  have digit : ∀ c ∈ Nat.toDigits 10 index, c.isDigit = true := fun _ hc =>
    Nat.isDigit_of_mem_toDigits (by decide) (by decide) hc
  have length : (Nat.toDigits 10 index).length ≤ 20 := by
    rw [Nat.length_toDigits_le_iff (by decide) (by decide)]
    exact Nat.lt_of_le_of_lt h (by decide)
  have other : ∀ c, c.isDigit = false → c ∉ ".block".toList → c ∉ (blockFileName index).toList := by
    intro c hdigit htail hc
    rw [hlist, List.mem_append] at hc
    rcases hc with hc | hc
    · simp [digit c hc] at hdigit
    · exact htail hc
  have long : (blockFileName index).toList.length > 2 := by simp [hlist]
  refine ⟨?_, other _ (by decide) (by decide), other _ (by decide) (by decide), ?_, ?_, ?_⟩
  · rintro hname
    simp [hname] at long
  · rintro hname
    simp [hname] at long
  · rintro hname
    simp [hname] at long
  · rw [← String.utf8Len_toList]
    refine (utf8Len_le _).trans ?_
    rw [hlist, List.length_append]
    show 4 * (_ + 6) ≤ 255
    omega

/-- The file of a block: whole, below the capacity, under the name that saving gives it, at the end
of a path that is not too long. -/
structure IsBlockFile (directory : String) (capacity index : Nat) (entry : String × FileNode) :
    Prop where
  name : entry.1 = blockFileName index
  below : index < capacity
  whole : ∃ contents, entry.2 = .file contents ∧ contents.size = blockFileBytes
  fits : (joinPath directory entry.1).utf8ByteSize ≤ pathLimit

/-- Whatever bears the name of a block file is one.  Other entries make no difference. -/
def BlockFiles (directory : String) (capacity : Nat) (entries : List (String × FileNode)) : Prop :=
  ∀ entry ∈ entries, ∀ index, blockIndex? entry.1 = some index →
    IsBlockFile directory capacity index entry

/-- The block that the files of a directory give a number. -/
def fileBlock (entries : List (String × FileNode)) (index : Nat) : Block :=
  match entries.lookup (blockFileName index) with
  | some (.file contents) => Block.ofWords (Word.ofFile contents)
  | _ => Block.zeros

section
variable {tree : FileTree} {directory : String} {capacity : Nat}
  {entries : List (String × FileNode)}

lemma takeUp?_of_blockFile (held : tree.Holding directory entries)
    (files : BlockFiles directory capacity entries) (addressable : capacity ≤ maxUnsigned64)
    {name : String} (listed : name ∈ entries.map Prod.fst) {index : Nat}
    (number : blockIndex? name = some index) {image : DiskImage}
    (hcapacity : image.capacity = capacity) :
    name = blockFileName index ∧ index < capacity
      ∧ image.takeUp? tree directory name = .ok (image.store index (fileBlock entries index)) := by
  obtain ⟨entry, hentry, rfl⟩ := List.mem_map.mp listed
  obtain ⟨node, hnode⟩ := FileNode.exists_lookup_of_mem hentry
  obtain ⟨hname, below, ⟨contents, hcontents, hsize⟩, fits⟩ :=
    files _ (FileNode.mem_of_lookup hnode) index number
  have plain : PlainName entry.1 :=
    hname ▸ plainName_blockFileName ((below.trans_le addressable).le)
  have hread : tree.readFile (joinPath directory entry.1) = .ok contents :=
    held.readFile plain fits (by rw [hnode, ← hcontents])
  refine ⟨hname, below, ?_⟩
  rw [takeUp?, number]
  simp only [hread, Except.mapError, Except.bind]
  rw [addFile?, if_pos hsize, write?, if_pos (hcapacity ▸ below), fileBlock, ← hname, hnode]
  simp only at hcontents
  rw [hcontents]

lemma foldlM_takeUp? (held : tree.Holding directory entries)
    (files : BlockFiles directory capacity entries) (addressable : capacity ≤ maxUnsigned64)
    {names : List String} (listed : ∀ name ∈ names, name ∈ entries.map Prod.fst)
    {image : DiskImage} (tidy : image.Tidy) (hcapacity : image.capacity = capacity) :
    ∃ loaded, names.foldlM (fun image name => image.takeUp? tree directory name) image = .ok loaded
      ∧ loaded.Tidy ∧ loaded.capacity = capacity
      ∧ ∀ index < capacity, loaded.read index
          = if blockFileName index ∈ names then fileBlock entries index else image.read index := by
  induction names generalizing image with
  | nil => exact ⟨image, rfl, tidy, hcapacity, fun index _ => by simp⟩
  | cons name names ih =>
      have rest : ∀ other ∈ names, other ∈ entries.map Prod.fst :=
        fun other hother => listed other (List.mem_cons_of_mem _ hother)
      have own : ∀ index < capacity, blockIndex? (blockFileName index) = some index :=
        fun index h => blockIndex?_blockFileName ((h.trans_le addressable).le)
      rw [List.foldlM_cons]
      cases number : blockIndex? name with
      | none =>
          obtain ⟨loaded, hloaded, htidy, hcap, hread⟩ := ih rest tidy hcapacity
          refine ⟨loaded, ?_, htidy, hcap, fun index h => ?_⟩
          · rw [show image.takeUp? tree directory name = .ok image by rw [takeUp?, number]]
            exact hloaded
          · have hne : blockFileName index ≠ name := by
              rintro rfl
              simp [own index h] at number
            simp only [hread index h, List.mem_cons, hne, false_or]
      | some found =>
          obtain ⟨hname, below, htaken⟩ := takeUp?_of_blockFile held files addressable
            (listed name List.mem_cons_self) number hcapacity
          obtain ⟨loaded, hloaded, htidy, hcap, hread⟩ :=
            ih rest (tidy.store (hcapacity ▸ below) (fileBlock entries found)) hcapacity
          refine ⟨loaded, ?_, htidy, hcap, fun index h => ?_⟩
          · rw [htaken]
            exact hloaded
          -- should the name come again, it gives the same block again
          · rw [hread index h, read_store]
            by_cases hindex : index = found
            · simp [hindex, hname]
            · have hne : blockFileName index ≠ name := by
                intro heq
                exact hindex (Option.some.inj ((own index h).symm.trans (heq ▸ number)))
              simp only [List.mem_cons, hne, false_or, if_neg (Ne.symm hindex)]

/-- Loading gives each block what its file holds. -/
theorem load_of_holding (held : tree.Holding directory entries)
    (files : BlockFiles directory capacity entries) (addressable : capacity ≤ maxUnsigned64) :
    ∃ loaded, tree.outcome (load directory capacity) = (.ok loaded, tree)
      ∧ loaded.Tidy ∧ loaded.capacity = capacity
      ∧ ∀ index < capacity, loaded.read index = fileBlock entries index := by
  obtain ⟨loaded, hloaded, tidy, hcapacity, hread⟩ := foldlM_takeUp? held files addressable
    (fun name hname => hname) (tidy_blank capacity) rfl
  refine ⟨loaded, ?_, tidy, hcapacity, fun index h => ?_⟩
  · rw [outcome_load, held.listDirectory]
    exact congrArg (·, tree) hloaded
  · rw [hread index h]
    split
    · rfl
    · rename_i hname
      have hnone : entries.lookup (blockFileName index) = none := by
        rw [List.lookup_eq_none_iff]
        intro entry hentry
        simp only [bne_iff_ne, ne_eq]
        rintro heq
        exact hname (heq ▸ List.mem_map_of_mem hentry)
      simp [fileBlock, hnone, read, blank]

end

end DiskImage

end PipelinedMachine
