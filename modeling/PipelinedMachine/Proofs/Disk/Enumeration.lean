import Mathlib.Data.List.Basic
import PipelinedMachine.Proofs.Disk.Saving

/-!
# The order of a directory

Which order the names of a directory come in is up to the store.  Loading takes them up one after
the other, and a number can be written in more than one way, so two names may stand for one block:
then the name that comes last decides what the block holds.

* `DiskImage.Takeable` — an entry that does not keep a directory from being loaded;
* `DiskImage.blocksAt` — the blocks that the entries of a directory give a number;
* `DiskImage.load_eq_ok_iff` — when a directory is loaded, and as what;
* `DiskImage.Unambiguous` — entries that never give a number two blocks.

Main statement: `DiskImage.load_of_reordered`, whether a directory can be loaded does not depend on
the order, and what is loaded does not exactly if the directory is unambiguous.
`DiskImage.load_depends_on_order` is the case of a block with two names.
-/

namespace PipelinedMachine

open FileTree FileNode

/-! ## Directories in another order -/

namespace FileNode

variable {entries order : List (String × FileNode)}

lemma lookup_of_mem (distinct : (entries.map Prod.fst).Nodup) {entry : String × FileNode}
    (member : entry ∈ entries) : entries.lookup entry.1 = some entry.2 := by
  obtain ⟨before, after, rfl⟩ := List.append_of_mem member
  rw [List.lookup_eq_some_iff]
  refine ⟨before, after, rfl, fun other earlier => ?_⟩
  rw [List.map_append, List.map_cons, List.nodup_append] at distinct
  have apart := distinct.2.2 other.1 (List.mem_map_of_mem earlier) entry.1 List.mem_cons_self
  simpa using Ne.symm apart

/-- The order of a directory makes no difference to what goes by a name. -/
lemma lookup_of_perm (distinct : (entries.map Prod.fst).Nodup) (reordered : order.Perm entries)
    (name : String) : order.lookup name = entries.lookup name := by
  have distinct' : (order.map Prod.fst).Nodup := (reordered.map Prod.fst).nodup_iff.mpr distinct
  apply Option.ext
  intro node
  constructor
  · intro found
    exact lookup_of_mem distinct (reordered.mem_iff.mp (mem_of_lookup found))
  · intro found
    exact lookup_of_mem distinct' (reordered.mem_iff.mpr (mem_of_lookup found))

lemma at?_put_self {root : FileNode} {location : Location}
    (found : root.at? location = some (directory entries)) (node : FileNode) :
    (root.put location node).at? location = some node := by
  induction location generalizing root with
  | nil => rfl
  | cons first rest ih =>
    cases root with
    | file contents => simp at found
    | directory outer =>
      simp only [at?, child?] at found
      obtain ⟨next, hnext, beyond⟩ := Option.bind_eq_some_iff.mp found
      cases rest with
      | nil => simp [put, at?, child?, lookup_putEntry]
      | cons second rest =>
        simpa [put, hnext, at?, child?, lookup_putEntry] using ih beyond

/-- Every directory stays where it is when the entries of one of them change their order. -/
lemma keeps_put_of_perm {root : FileNode} {location : Location}
    (found : root.at? location = some (directory entries))
    (distinct : (entries.map Prod.fst).Nodup) (reordered : order.Perm entries) :
    root.Keeps (root.put location (directory order)) := by
  intro target ⟨inner, hinner⟩
  induction location generalizing root target with
  | nil =>
    obtain rfl : root = directory entries := by simpa [at?] using found
    cases target with
    | nil => exact ⟨order, rfl⟩
    | cons name below =>
      refine ⟨inner, ?_⟩
      rw [← hinner]
      simp only [put, at?, child?, lookup_of_perm distinct reordered]
  | cons first rest ih =>
    cases root with
    | file contents => simp at found
    | directory outer =>
      simp only [at?, child?] at found
      obtain ⟨next, hnext, beyond⟩ := Option.bind_eq_some_iff.mp found
      have changed : (directory outer).put (first :: rest) (directory order)
          = directory (putEntry first (next.put rest (directory order)) outer) := by
        cases rest <;> simp [put, hnext]
      rw [changed]
      cases target with
      | nil => exact ⟨_, rfl⟩
      | cons name below =>
        simp only [at?, child?] at hinner
        by_cases same : name = first
        · subst same
          rw [hnext, Option.bind_some] at hinner
          obtain ⟨kept, hkept⟩ := ih beyond below hinner
          exact ⟨kept, by simpa [at?, child?, lookup_putEntry] using hkept⟩
        · exact ⟨inner, by simpa [at?, child?, lookup_putEntry, same] using hinner⟩

end FileNode

/-- A store may list a directory in any order. -/
lemma FileTree.Holding.exists_reordered {tree : FileTree} {path : String}
    {entries order : List (String × FileNode)} (held : tree.Holding path entries)
    (distinct : (entries.map Prod.fst).Nodup) (reordered : order.Perm entries) :
    ∃ tree' : FileTree, tree'.Holding path order := by
  obtain ⟨location, leads⟩ := lookup_eq_directory_iff.mp held.found
  have found := at?_of_locate leads
  have grows : tree.Grows (tree.put location (.directory order)) :=
    ⟨rfl, keeps_put_of_perm found distinct reordered⟩
  refine ⟨tree.put location (.directory order), grows.grounded held.grounded, ?_⟩
  rw [lookup_eq_directory_iff]
  refine ⟨location, ?_⟩
  rw [grows.locate held.grounded leads]
  exact congrArg (fun node => Except.ok (Place.mk location node)) (at?_put_self found _)

namespace DiskImage

/-! ## Entries -/

/-- The entries of a directory: file names, each there once. -/
structure FileNames (entries : List (String × FileNode)) : Prop where
  distinct : (entries.map Prod.fst).Nodup
  plain : ∀ entry ∈ entries, PlainName entry.1

/-- An entry that can be taken up: if its name stands for a block, the block is on the disk and the
entry is a file that holds exactly one, at the end of a path that is not too long. -/
def Takeable (directory : String) (capacity : Nat) (entry : String × FileNode) : Prop :=
  ∀ index, blockIndex? entry.1 = some index →
    index < capacity ∧ (joinPath directory entry.1).utf8ByteSize ≤ pathLimit
      ∧ ∃ contents, entry.2 = .file contents ∧ contents.size = blockFileBytes

/-- The block in the file of an entry. -/
def entryBlock (entry : String × FileNode) : Block :=
  match entry.2 with
  | .file contents => Block.ofWords (Word.ofFile contents)
  | .directory _ => Block.zeros

/-- The image with an entry taken up. -/
def withEntry (image : DiskImage) (entry : String × FileNode) : DiskImage :=
  match blockIndex? entry.1 with
  | none => image
  | some index => image.store index (entryBlock entry)

/-- The blocks that entries give a number, in the order of the entries. -/
def blocksAt (entries : List (String × FileNode)) (index : Nat) : List Block :=
  entries.filterMap fun entry =>
    if blockIndex? entry.1 = some index then some (entryBlock entry) else none

/-- No number is given two different blocks. -/
def Unambiguous (entries : List (String × FileNode)) : Prop :=
  ∀ index, ∀ block ∈ blocksAt entries index, ∀ other ∈ blocksAt entries index, block = other

lemma capacity_withEntry (image : DiskImage) (entry : String × FileNode) :
    (image.withEntry entry).capacity = image.capacity := by
  rw [withEntry]
  split <;> rfl

/-! ## Taking up entries -/

section
variable {tree : FileTree} {directory : String} {capacity : Nat}
  {entries listed : List (String × FileNode)} {entry : String × FileNode}
  {image loaded taken : DiskImage}

lemma size_le_of_readFile {path : String} {contents : ByteArray}
    (read : tree.readFile path = .ok contents) : path.utf8ByteSize ≤ pathLimit := by
  cases place : tree.locate path with
  | error error => simp [readFile, FileTree.lookup, place, bind, Except.bind] at read
  | ok place' => exact (locate_eq_ok_iff.mp place).2.2.1

/-- What reading the file of an entry gives. -/
lemma readFile_eq_ok_iff (held : tree.Holding directory entries) (names : FileNames entries)
    (member : entry ∈ entries) (contents : ByteArray) :
    tree.readFile (joinPath directory entry.1) = .ok contents
      ↔ (joinPath directory entry.1).utf8ByteSize ≤ pathLimit ∧ entry.2 = .file contents := by
  have plain := names.plain entry member
  have found := lookup_of_mem names.distinct member
  constructor
  · intro read
    have fits := size_le_of_readFile read
    obtain ⟨location, leads⟩ := lookup_eq_directory_iff.mp held.found
    have place := locate_joinPath leads plain fits
    refine ⟨fits, ?_⟩
    rw [found] at place
    cases node : entry.2 with
    | file stored =>
      have same := held.readFile plain fits (found.trans (congrArg some node))
      rw [read] at same
      rw [Except.ok.inj same]
    | directory inner =>
      simp [readFile, FileTree.lookup, place, node, bind, Except.bind] at read
  · rintro ⟨fits, file⟩
    exact held.readFile plain fits (found.trans (congrArg some file))

/-- When an entry is taken up, and what becomes of the image. -/
lemma takeUp?_eq_ok_iff (held : tree.Holding directory entries) (names : FileNames entries)
    (member : entry ∈ entries) :
    image.takeUp? tree directory entry.1 = .ok taken
      ↔ Takeable directory image.capacity entry ∧ image.withEntry entry = taken := by
  rw [takeUp?, Takeable, withEntry]
  cases number : blockIndex? entry.1 with
  | none => simp
  | some index =>
    simp only [Option.some.injEq, forall_eq']
    cases read : tree.readFile (joinPath directory entry.1) with
    | error error =>
      simp only [Except.mapError, Except.bind, reduceCtorEq, false_iff]
      rintro ⟨⟨-, fits, contents, file, -⟩, -⟩
      rw [(readFile_eq_ok_iff held names member contents).mpr ⟨fits, file⟩] at read
      contradiction
    | ok contents =>
      obtain ⟨fits, file⟩ := (readFile_eq_ok_iff held names member contents).mp read
      simp only [Except.mapError, Except.bind, addFile?, write?, entryBlock, file]
      split_ifs with whole below
      · simp [below, fits, whole]
      · simp [below]
      · simp [whole]

/-- When entries are taken up one after the other, and what becomes of the image. -/
lemma foldlM_takeUp?_eq_ok_iff (held : tree.Holding directory entries) (names : FileNames entries)
    (among : ∀ entry ∈ listed, entry ∈ entries) :
    (listed.map Prod.fst).foldlM (fun image name => image.takeUp? tree directory name) image
        = .ok loaded
      ↔ (∀ entry ∈ listed, Takeable directory image.capacity entry)
        ∧ listed.foldl withEntry image = loaded := by
  induction listed generalizing image with
  | nil => simp [pure, Except.pure]
  | cons entry listed ih =>
    have member := among entry List.mem_cons_self
    have rest : ∀ other ∈ listed, other ∈ entries :=
      fun other later => among other (List.mem_cons_of_mem _ later)
    rw [List.map_cons, List.foldlM_cons, List.foldl_cons, List.forall_mem_cons]
    cases step : image.takeUp? tree directory entry.1 with
    | error error =>
      simp only [bind, Except.bind, reduceCtorEq, false_iff]
      rintro ⟨⟨takeable, -⟩, -⟩
      rw [(takeUp?_eq_ok_iff held names member).mpr ⟨takeable, rfl⟩] at step
      contradiction
    | ok taken =>
      obtain ⟨takeable, rfl⟩ := (takeUp?_eq_ok_iff held names member).mp step
      have same := @ih (image.withEntry entry) rest
      rw [capacity_withEntry] at same
      simpa [bind, Except.bind, takeable] using same

/-- **When a directory is loaded, and as what.** -/
theorem load_eq_ok_iff (held : tree.Holding directory entries) (names : FileNames entries) :
    tree.outcome (load directory capacity) = (.ok image, tree)
      ↔ (∀ entry ∈ entries, Takeable directory capacity entry)
        ∧ entries.foldl withEntry (blank capacity) = image := by
  rw [outcome_load, held.listDirectory, Prod.mk.injEq, and_iff_left rfl]
  exact foldlM_takeUp?_eq_ok_iff held names fun entry member => member

/-! ## What a block is -/

lemma blocksAt_cons (entry : String × FileNode) (entries : List (String × FileNode))
    (index : Nat) :
    blocksAt (entry :: entries) index
      = (if blockIndex? entry.1 = some index then [entryBlock entry] else [])
        ++ blocksAt entries index := by
  rw [blocksAt, List.filterMap_cons]
  split_ifs <;> rfl

/-- The last block that is given to a number counts. -/
lemma read_foldl_withEntry (image : DiskImage) (entries : List (String × FileNode))
    (index : Nat) :
    (entries.foldl withEntry image).read index
      = (blocksAt entries index).getLast?.getD (image.read index) := by
  induction entries generalizing image with
  | nil => rfl
  | cons entry entries ih =>
    rw [List.foldl_cons, ih, blocksAt_cons, List.getLast?_append, withEntry]
    cases number : blockIndex? entry.1 with
    | none => simp
    | some found =>
      simp only [Option.some.injEq, read_store]
      cases (blocksAt entries index).getLast? with
      | some last => rfl
      | none =>
        simp only [Option.getD_none, Option.none_or]
        split_ifs <;> rfl

/-- The block that a loaded directory has under a number. -/
def lastBlock (entries : List (String × FileNode)) (index : Nat) : Block :=
  (blocksAt entries index).getLast?.getD Block.zeros

lemma read_of_load (held : tree.Holding directory entries) (names : FileNames entries)
    (loads : tree.outcome (load directory capacity) = (.ok image, tree)) (index : Nat) :
    image.read index = lastBlock entries index := by
  obtain ⟨-, rfl⟩ := (load_eq_ok_iff held names).mp loads
  rw [read_foldl_withEntry, lastBlock]
  simp [read, blank]

lemma capacity_of_load (held : tree.Holding directory entries) (names : FileNames entries)
    (loads : tree.outcome (load directory capacity) = (.ok image, tree)) :
    image.capacity = capacity := by
  obtain ⟨-, rfl⟩ := (load_eq_ok_iff held names).mp loads
  have kept (entries : List (String × FileNode)) (start : DiskImage) :
      (entries.foldl withEntry start).capacity = start.capacity := by
    induction entries generalizing start with
    | nil => rfl
    | cons entry entries ih => rw [List.foldl_cons, ih, capacity_withEntry]
  exact kept entries (blank capacity)

/-! ## Other orders -/

variable {order : List (String × FileNode)} {tree' : FileTree} {image' : DiskImage}

lemma FileNames.of_perm (names : FileNames entries) (reordered : order.Perm entries) :
    FileNames order where
  distinct := (reordered.map Prod.fst).nodup_iff.mpr names.distinct
  plain entry member := names.plain entry (reordered.mem_iff.mp member)

/-- Two loaded images are the same exactly if the same blocks come last. -/
lemma eq_iff_lastBlock (held : tree.Holding directory entries) (names : FileNames entries)
    (held' : tree'.Holding directory order) (names' : FileNames order)
    (loads : tree.outcome (load directory capacity) = (.ok image, tree))
    (loads' : tree'.outcome (load directory capacity) = (.ok image', tree')) :
    image' = image ↔ ∀ index, lastBlock order index = lastBlock entries index := by
  constructor
  · rintro rfl index
    rw [← read_of_load held names loads, ← read_of_load held' names' loads']
  · intro same
    refine (tidy_of_load loads').ext (tidy_of_load loads) ?_ fun index _ => ?_
    · rw [capacity_of_load held names loads, capacity_of_load held' names' loads']
    · rw [read_of_load held names loads, read_of_load held' names' loads', same]

lemma mem_blocksAt {index : Nat} {block : Block} :
    block ∈ blocksAt entries index
      ↔ ∃ entry ∈ entries, blockIndex? entry.1 = some index ∧ entryBlock entry = block := by
  simp [blocksAt]

/-- Whatever block an entry gives a number, in some order it comes last. -/
lemma exists_order_lastBlock {index : Nat} {block : Block}
    (member : block ∈ blocksAt entries index) :
    ∃ order : List (String × FileNode), order.Perm entries ∧ lastBlock order index = block := by
  obtain ⟨entry, listed, number, rfl⟩ := mem_blocksAt.mp member
  obtain ⟨before, after, rfl⟩ := List.append_of_mem listed
  refine ⟨(before ++ after) ++ [entry], ?_, ?_⟩
  · exact (List.perm_append_singleton entry _).trans List.perm_middle.symm
  · simp [lastBlock, blocksAt, number]

/-- Exactly the unambiguous directories give the same blocks in every order. -/
lemma unambiguous_iff_lastBlock :
    Unambiguous entries
      ↔ ∀ order : List (String × FileNode), order.Perm entries →
        ∀ index, lastBlock order index = lastBlock entries index := by
  constructor
  · intro clear order reordered index
    have among : (blocksAt order index).Perm (blocksAt entries index) := reordered.filterMap _
    rw [lastBlock, lastBlock]
    cases last : (blocksAt order index).getLast? with
    | none =>
      rw [List.getLast?_eq_none_iff] at last
      rw [last] at among
      rw [← among.nil_eq]
      rfl
    | some block =>
      have member := among.mem_iff.mp (List.mem_of_getLast? last)
      cases last' : (blocksAt entries index).getLast? with
      | none =>
        rw [List.getLast?_eq_none_iff] at last'
        rw [last'] at member
        contradiction
      | some other => exact clear index block member other (List.mem_of_getLast? last')
  · intro same index block member other member'
    obtain ⟨order, reordered, rfl⟩ := exists_order_lastBlock member
    obtain ⟨order', reordered', rfl⟩ := exists_order_lastBlock member'
    rw [same order reordered, same order' reordered']

/-- **What the order of a directory decides.**  Whether the directory can be loaded does not depend
on it.  What is loaded does not exactly if no block has two files that differ. -/
theorem load_of_reordered (held : tree.Holding directory entries) (names : FileNames entries)
    (capacity : Nat) :
    (∀ (order : List (String × FileNode)) (tree' : FileTree), order.Perm entries →
        tree'.Holding directory order →
        ((∃ image', tree'.outcome (load directory capacity) = (.ok image', tree'))
          ↔ ∃ image, tree.outcome (load directory capacity) = (.ok image, tree)))
      ∧ ∀ image, tree.outcome (load directory capacity) = (.ok image, tree) →
        ((∀ (order : List (String × FileNode)) (tree' : FileTree), order.Perm entries →
            tree'.Holding directory order →
            tree'.outcome (load directory capacity) = (.ok image, tree'))
          ↔ Unambiguous entries) := by
  have loadable (order : List (String × FileNode)) (tree' : FileTree)
      (reordered : order.Perm entries) (held' : tree'.Holding directory order) :
      (∃ image', tree'.outcome (load directory capacity) = (.ok image', tree'))
        ↔ ∃ image, tree.outcome (load directory capacity) = (.ok image, tree) := by
    have names' := names.of_perm reordered
    constructor
    · rintro ⟨image', loads⟩
      have takeable := ((load_eq_ok_iff held' names').mp loads).1
      exact ⟨_, (load_eq_ok_iff held names).mpr
        ⟨fun entry member => takeable entry (reordered.mem_iff.mpr member), rfl⟩⟩
    · rintro ⟨image, loads⟩
      have takeable := ((load_eq_ok_iff held names).mp loads).1
      exact ⟨_, (load_eq_ok_iff held' names').mpr
        ⟨fun entry member => takeable entry (reordered.mem_iff.mp member), rfl⟩⟩
  refine ⟨loadable, fun image loads => ?_⟩
  rw [unambiguous_iff_lastBlock]
  constructor
  · intro same order reordered
    obtain ⟨tree', held'⟩ := held.exists_reordered names.distinct reordered
    exact (eq_iff_lastBlock held names held' (names.of_perm reordered) loads
      (same order tree' reordered held')).mp rfl
  · intro same order tree' reordered held'
    obtain ⟨image', loads'⟩ := (loadable order tree' reordered held').mpr ⟨image, loads⟩
    rw [loads', (eq_iff_lastBlock held names held' (names.of_perm reordered) loads loads').mpr
      (same order reordered)]

end

/-! ## Two names for one block -/

/-- A tree with one directory. -/
def onlyDirectory (entries : List (String × FileNode)) : FileTree where
  root := .directory [("d", .directory entries)]
  workingDirectory := []

lemma holding_onlyDirectory (entries : List (String × FileNode)) :
    (onlyDirectory entries).Holding "d" entries :=
  Holding.of_name rfl plainName_d rfl

/-- Two files for block 1. -/
def twoNames (first second : Block) : List (String × FileNode) :=
  [("1.block", .file (Word.toFile first.toArray)), ("01.block", .file (Word.toFile second.toArray))]

lemma fileNames_twoNames (first second : Block) : FileNames (twoNames first second) where
  distinct := by simp [twoNames]
  plain := by
    simp only [twoNames, List.forall_mem_cons]
    refine ⟨?_, ?_, by simp⟩
    · exact ⟨by decide, by decide, by decide, by decide, by decide, by decide⟩
    · exact ⟨by decide, by decide, by decide, by decide, by decide, by decide⟩

lemma blockIndex?_twoNames : blockIndex? "1.block" = some 1 ∧ blockIndex? "01.block" = some 1 := by
  constructor <;> decide +kernel

lemma takeable_twoNames (first second : Block) :
    ∀ entry ∈ twoNames first second, Takeable "d" 4 entry := by
  have one (index : Nat) (stands : 1 = index) : index < 4 := by omega
  obtain ⟨plain, padded⟩ := blockIndex?_twoNames
  simp only [twoNames, List.forall_mem_cons, Takeable, plain, padded, Option.some.injEq]
  refine ⟨fun index stands => ⟨one index stands, ?_, _, rfl, size_toFile_block first⟩,
    fun index stands => ⟨one index stands, ?_, _, rfl, size_toFile_block second⟩, by simp⟩ <;>
  decide +kernel

lemma lastBlock_twoNames (first second : Block) :
    lastBlock (twoNames first second) 1 = second
      ∧ lastBlock (twoNames first second).reverse 1 = first := by
  obtain ⟨plain, padded⟩ := blockIndex?_twoNames
  simp [lastBlock, twoNames, blocksAt, plain, padded, entryBlock, Word.ofFile_toFile,
    ofWords_toArray]

/-- Two files for one block that hold the same may come in either order. -/
theorem load_of_reordered_twice :
    ∃ image, (onlyDirectory (twoNames nineBlock nineBlock)).outcome (load "d" 4)
        = (.ok image, onlyDirectory (twoNames nineBlock nineBlock))
      ∧ (onlyDirectory (twoNames nineBlock nineBlock).reverse).outcome (load "d" 4)
        = (.ok image, onlyDirectory (twoNames nineBlock nineBlock).reverse)
      ∧ image.read 1 = nineBlock := by
  have held := holding_onlyDirectory (twoNames nineBlock nineBlock)
  have names := fileNames_twoNames nineBlock nineBlock
  have loads := (load_eq_ok_iff held names).mpr ⟨takeable_twoNames nineBlock nineBlock, rfl⟩
  have clear : Unambiguous (twoNames nineBlock nineBlock) := by
    have nine (index : Nat) (block : Block)
        (member : block ∈ blocksAt (twoNames nineBlock nineBlock) index) : block = nineBlock := by
      obtain ⟨entry, listed, -, rfl⟩ := mem_blocksAt.mp member
      simp only [twoNames, List.mem_cons, List.not_mem_nil, or_false] at listed
      rcases listed with rfl | rfl <;> simp [entryBlock, Word.ofFile_toFile, ofWords_toArray]
    intro index block member other member'
    rw [nine index block member, nine index other member']
  refine ⟨_, loads, ((load_of_reordered held names 4).2 _ loads).mpr clear _ _
    (List.reverse_perm _) (holding_onlyDirectory _), ?_⟩
  rw [read_of_load held names loads, (lastBlock_twoNames nineBlock nineBlock).1]

/-- A block with two files is loaded as one or as the other, by the order of the directory. -/
theorem load_depends_on_order :
    ∃ (entries order : List (String × FileNode)) (tree tree' : FileTree)
      (image image' : DiskImage),
      FileNames entries ∧ order.Perm entries
        ∧ tree.Holding "d" entries ∧ tree'.Holding "d" order
        ∧ tree.outcome (load "d" 4) = (.ok image, tree)
        ∧ tree'.outcome (load "d" 4) = (.ok image', tree')
        ∧ image.read 1 = nineBlock ∧ image'.read 1 = Block.zeros ∧ image ≠ image' := by
  have held := holding_onlyDirectory (twoNames Block.zeros nineBlock)
  have held' := holding_onlyDirectory (twoNames Block.zeros nineBlock).reverse
  have names := fileNames_twoNames Block.zeros nineBlock
  have reordered := List.reverse_perm (twoNames Block.zeros nineBlock)
  have names' := names.of_perm reordered
  have takeable := takeable_twoNames Block.zeros nineBlock
  have loads := (load_eq_ok_iff held names).mpr ⟨takeable, rfl⟩
  have loads' := (load_eq_ok_iff held' names').mpr
    ⟨fun entry member => takeable entry (reordered.mem_iff.mp member), rfl⟩
  have block := read_of_load held names loads 1
  have block' := read_of_load held' names' loads' 1
  rw [(lastBlock_twoNames Block.zeros nineBlock).1] at block
  rw [(lastBlock_twoNames Block.zeros nineBlock).2] at block'
  refine ⟨_, _, _, _, _, _, names, reordered, held, held', loads, loads', block, block', ?_⟩
  intro same
  rw [same, block'] at block
  exact nineBlock_ne_zeros block.symm

end DiskImage

end PipelinedMachine
