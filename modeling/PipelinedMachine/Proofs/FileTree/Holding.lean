import PipelinedMachine.Proofs.FileTree.Walk

/-!
# A directory and its files

What the accesses to a file tree do to the entries of one directory.  Every change keeps the
directories that exist, so that the path of a directory goes on leading to it, and the path of a
name in it to that name.

* `FileTree.Grows` — a change that keeps the directories, and where relative paths start;
* `FileTree.PlainName` — a name that a path can end in, and that stands for itself;
* `FileTree.Holding` — a path that leads to a directory with certain entries.

Main statements: `FileTree.Holding.readFile` and `FileTree.Holding.writeFile`, a file of the
directory read and written; `FileTree.grows_withDirectory`, `FileTree.Holding.of_missing` and
`FileTree.outcome_createDirectories`, a directory created, or found to exist.
-/

namespace PipelinedMachine.FileTree

open FileNode

/-! ## Trees that grow -/

/-- The directory that relative paths start from exists. -/
def Grounded (tree : FileTree) : Prop := tree.root.HoldsDirectory tree.workingDirectory

structure Grows (tree changed : FileTree) : Prop where
  workingDirectory : changed.workingDirectory = tree.workingDirectory
  keeps : tree.root.Keeps changed.root

lemma Grows.refl (tree : FileTree) : tree.Grows tree := ⟨rfl, .refl tree.root⟩

lemma Grows.trans {tree middle changed : FileTree} (first : tree.Grows middle)
    (second : middle.Grows changed) : tree.Grows changed :=
  ⟨second.workingDirectory.trans first.workingDirectory, first.keeps.trans second.keeps⟩

lemma Grows.grounded {tree changed : FileTree} (grows : tree.Grows changed)
    (grounded : tree.Grounded) : changed.Grounded := by
  rw [Grounded, grows.workingDirectory]
  exact grows.keeps _ grounded

lemma grows_put {tree : FileTree} {location : Location}
    (free : ¬tree.root.HoldsDirectory location) (node : FileNode) :
    tree.Grows (tree.put location node) :=
  ⟨rfl, keeps_put free node⟩

/-! ## Where paths lead -/

/-- The location that a path starts from. -/
def start (tree : FileTree) (path : String) : Location :=
  if path.startsWith "/" then [] else tree.workingDirectory

lemma locate_eq_ok_iff {tree : FileTree} {path : String} {place : Place} :
    tree.locate path = .ok place
      ↔ '\x00' ∉ path.toList ∧ path ≠ "" ∧ path.utf8ByteSize ≤ pathLimit
        ∧ tree.root.walk (tree.root.trailTo [] (tree.start path)) (pathNames path)
            = .ok place := by
  rw [locate, String.contains_char_eq]
  by_cases hnul : '\x00' ∈ path.toList
  · simp [hnul]
  by_cases hempty : path = ""
  · simp [hempty]
  by_cases hsize : path.utf8ByteSize > pathLimit
  · simp [hnul, hempty, hsize, Nat.not_le.mpr hsize]
  · simp [hnul, hempty, hsize, start, Nat.le_of_not_gt hsize]

lemma follows_start (tree : FileTree) (path : String) :
    Follows tree.root (tree.root.trailTo [] (tree.start path)) :=
  follows_trailTo .start _

lemma whereabouts_start {tree : FileTree} (grounded : tree.Grounded) (path : String) :
    whereabouts (tree.root.trailTo [] (tree.start path)) = tree.start path := by
  have reached : ∃ last, tree.root.at? (tree.start path) = some last := by
    rw [start]
    split
    · exact ⟨tree.root, rfl⟩
    · exact ⟨_, grounded.choose_spec⟩
  exact whereabouts_trailTo reached.choose_spec []

lemma at?_of_locate {tree : FileTree} {path : String} {place : Place}
    (leads : tree.locate path = .ok place) : tree.root.at? place.location = place.node? :=
  at?_of_walk (tree.follows_start path) (locate_eq_ok_iff.mp leads).2.2.2

/-- A path to a directory goes on leading to its location while the tree grows. -/
lemma Grows.locate {tree changed : FileTree} (grows : tree.Grows changed)
    (grounded : tree.Grounded) {path : String} {location : Location}
    {entries : List (String × FileNode)}
    (leads : tree.locate path = .ok ⟨location, some (.directory entries)⟩) :
    changed.locate path = .ok ⟨location, changed.root.at? location⟩ := by
  rw [locate_eq_ok_iff] at leads ⊢
  obtain ⟨nul, nonempty, size, walked⟩ := leads
  have same : changed.start path = tree.start path := by
    rw [start, start, grows.workingDirectory]
  refine ⟨nul, nonempty, size, ?_⟩
  refine walk_of_keeps grows.keeps (tree.follows_start path) (changed.follows_start path) ?_ walked
  rw [whereabouts_start grounded, whereabouts_start (grows.grounded grounded), same]

lemma lookup_eq_directory_iff {tree : FileTree} {path : String}
    {entries : List (String × FileNode)} :
    tree.lookup path = .ok (.directory entries)
      ↔ ∃ location, tree.locate path = .ok ⟨location, some (.directory entries)⟩ := by
  rw [lookup]
  rcases hplace : tree.locate path with error | ⟨location, _ | ⟨contents | inner⟩⟩
  · simp [bind, Except.bind]
  · simp [bind, Except.bind]
  · by_cases hslash : endsInSlash path <;> simp [bind, Except.bind, hslash]
  · simp [bind, Except.bind]

/-! ## Names in a directory -/

/-- A name that stands for itself at the end of a path. -/
structure PlainName (name : String) : Prop where
  nonempty : name ≠ ""
  slash : '/' ∉ name.toList
  nul : '\x00' ∉ name.toList
  dot : name ≠ "."
  dots : name ≠ ".."
  short : name.utf8ByteSize ≤ nameLimit

lemma endsInSlash_joinPath {directory name : String} (plain : PlainName name) :
    endsInSlash (joinPath directory name) = false := by
  rw [Bool.eq_false_iff]
  intro h
  obtain ⟨front, hfront⟩ := (endsWith_slash_iff _).mp h
  obtain ⟨before, hbefore⟩ : ∃ before, joinPath directory name = before ++ name := by
    rw [joinPath]
    split
    · exact ⟨directory, rfl⟩
    · exact ⟨directory ++ "/", rfl⟩
  have hlast : (before.toList ++ name.toList).getLast? = some '/' := by
    rw [← String.toList_append, ← hbefore, hfront]
    simp
  have hname : name.toList ≠ [] := by simpa using plain.nonempty
  rw [List.getLast?_append, List.getLast?_eq_some_getLast hname, Option.some_or,
    Option.some.injEq] at hlast
  exact plain.slash (hlast ▸ List.getLast_mem hname)

lemma startsWith_joinPath {directory : String} (nonempty : directory ≠ "") (name : String) :
    (joinPath directory name).startsWith "/" = directory.startsWith "/" := by
  have happend : ∀ back : String,
      (directory ++ back).startsWith "/" = directory.startsWith "/" := by
    intro back
    rw [Bool.eq_iff_iff, String.startsWith_string_iff, String.startsWith_string_iff,
      String.toList_append]
    cases hlist : directory.toList with
    | nil => exact absurd (by simpa using hlist) nonempty
    | cons first rest => simp [List.prefix_cons_iff]
  rw [joinPath]
  split
  · exact happend name
  · rw [String.append_assoc]
    exact happend _

lemma locate_joinPath {tree : FileTree} {directory name : String} {location : Location}
    {entries : List (String × FileNode)}
    (leads : tree.locate directory = .ok ⟨location, some (.directory entries)⟩)
    (plain : PlainName name) (fits : (joinPath directory name).utf8ByteSize ≤ pathLimit) :
    tree.locate (joinPath directory name) = .ok ⟨location ++ [name], entries.lookup name⟩ := by
  rw [locate_eq_ok_iff] at leads ⊢
  obtain ⟨nul, nonempty, -, walked⟩ := leads
  have nul' : '\x00' ∉ (joinPath directory name).toList := by
    rw [joinPath]
    split <;> simp [nul, plain.nul]
  have nonempty' : joinPath directory name ≠ "" := by
    rw [joinPath]
    split <;> simp [nonempty]
  refine ⟨nul', nonempty', fits, ?_⟩
  rw [start, startsWith_joinPath nonempty, pathNames_joinPath plain.slash plain.nonempty]
  exact walk_name walked plain.short plain.dot plain.dots

/-- A name alone is looked up in the directory that relative paths start from. -/
lemma locate_name {tree : FileTree} {entries : List (String × FileNode)}
    (here : tree.root.at? tree.workingDirectory = some (.directory entries)) {name : String}
    (plain : PlainName name) :
    tree.locate name = .ok ⟨tree.workingDirectory ++ [name], entries.lookup name⟩ := by
  have relative : tree.start name = tree.workingDirectory := by
    rw [start, if_neg]
    rw [String.startsWith_string_iff]
    intro leading
    exact plain.slash (leading.subset (by simp))
  have arrives := (tree.follows_start name).at?_whereabouts
  rw [whereabouts_start ⟨entries, here⟩, relative, here, Option.some.injEq] at arrives
  have short : name.utf8ByteSize ≤ pathLimit := Nat.le_trans plain.short (by decide)
  refine locate_eq_ok_iff.mpr ⟨plain.nul, plain.nonempty, short, ?_⟩
  rw [pathNames_name plain.slash plain.nonempty, ← List.nil_append [name]]
  refine walk_name ?_ plain.short plain.dot plain.dots
  rw [walk, whereabouts_start ⟨entries, here⟩, relative, ← arrives]

/-! ## One directory -/

/-- A path leads to a directory with the given entries. -/
structure Holding (tree : FileTree) (path : String) (entries : List (String × FileNode)) :
    Prop where
  grounded : tree.Grounded
  found : tree.lookup path = .ok (.directory entries)

namespace Holding

variable {tree : FileTree} {path : String} {entries : List (String × FileNode)}

lemma listDirectory (held : tree.Holding path entries) :
    tree.listDirectory path = .ok (entries.map Prod.fst) := by
  rw [FileTree.listDirectory, held.found]
  rfl

theorem readFile (held : tree.Holding path entries) {name : String} (plain : PlainName name)
    (fits : (joinPath path name).utf8ByteSize ≤ pathLimit) {contents : ByteArray}
    (file : entries.lookup name = some (.file contents)) :
    tree.readFile (joinPath path name) = .ok contents := by
  obtain ⟨location, leads⟩ := lookup_eq_directory_iff.mp held.found
  have hlookup : tree.lookup (joinPath path name) = .ok (.file contents) := by
    simp [lookup, locate_joinPath leads plain fits, file, bind, Except.bind,
      endsInSlash_joinPath plain]
  rw [FileTree.readFile, hlookup]
  rfl

theorem writeFile (held : tree.Holding path entries) {name : String} (plain : PlainName name)
    (fits : (joinPath path name).utf8ByteSize ≤ pathLimit)
    (free : ∀ inner, entries.lookup name ≠ some (.directory inner)) (contents : ByteArray) :
    ∃ changed, tree.writeFile (joinPath path name) contents = .ok changed
      ∧ changed.Holding path (putEntry name (.file contents) entries) := by
  obtain ⟨location, leads⟩ := lookup_eq_directory_iff.mp held.found
  have at_name := locate_joinPath leads plain fits
  have grows : tree.Grows (tree.put (location ++ [name]) (.file contents)) := by
    refine grows_put ?_ _
    rintro ⟨inner, hinner⟩
    exact free inner (by rw [← hinner, at?_of_locate at_name])
  refine ⟨tree.put (location ++ [name]) (.file contents), ?_, grows.grounded held.grounded, ?_⟩
  · rw [FileTree.writeFile, at_name]
    cases hnode : entries.lookup name with
    | none => simp [bind, Except.bind, endsInSlash_joinPath plain]
    | some node =>
        cases node with
        | directory inner => exact absurd hnode (free inner)
        | file before => simp [bind, Except.bind, endsInSlash_joinPath plain]
  · rw [lookup_eq_directory_iff]
    refine ⟨location, ?_⟩
    rw [grows.locate held.grounded leads]
    congr 2
    exact at?_put (at?_of_locate leads) name (.file contents)

end Holding

lemma size_le_of_writeFile {tree changed : FileTree} {path : String} {contents : ByteArray}
    (written : tree.writeFile path contents = .ok changed) : path.utf8ByteSize ≤ pathLimit := by
  rw [writeFile] at written
  cases hplace : tree.locate path with
  | error error => simp [hplace, bind, Except.bind] at written
  | ok place => exact (locate_eq_ok_iff.mp hplace).2.2.1

/-! ## Actions -/

/-- The outcome of an action on a tree, and the tree after it. -/
def outcome {ε α : Type} (tree : FileTree) (action : ExceptT ε (StateM FileTree) α) :
    Except ε α × FileTree :=
  action.run.run tree

section
variable {ε α β : Type} (tree : FileTree)

@[simp] lemma outcome_pure (value : α) :
    tree.outcome (pure value : ExceptT ε (StateM FileTree) α) = (.ok value, tree) := rfl

@[simp] lemma outcome_readFile (path : String) :
    tree.outcome (FileStore.readFile path) = (tree.readFile path, tree) := rfl

@[simp] lemma outcome_listDirectory (path : String) :
    tree.outcome (FileStore.listDirectory path) = (tree.listDirectory path, tree) := rfl

lemma outcome_writeFile (path : String) (contents : ByteArray) :
    tree.outcome (FileStore.writeFile path contents) = match tree.writeFile path contents with
      | .ok changed => (.ok (), changed)
      | .error error => (.error error, tree) := rfl

lemma outcome_adapt {ε' : Type} (name : ε → ε') (action : ExceptT ε (StateM FileTree) α) :
    tree.outcome (action.adapt name)
      = ((tree.outcome action).1.mapError name, (tree.outcome action).2) := rfl

lemma run_bind_outcome (action : ExceptT ε (StateM FileTree) α)
    (next : Except ε α → StateM FileTree β) :
    (action.run >>= next).run tree
      = (next (tree.outcome action).1).run (tree.outcome action).2 := rfl

lemma outcome_bind (action : ExceptT ε (StateM FileTree) α)
    (next : α → ExceptT ε (StateM FileTree) β) :
    tree.outcome (action >>= next) = match tree.outcome action with
      | (.ok value, changed) => changed.outcome (next value)
      | (.error error, changed) => (.error error, changed) := by
  simp only [outcome, bind, ExceptT.run, ExceptT.mk, ExceptT.bind, StateT.run, StateT.bind]
  rcases action tree with ⟨error | value, changed⟩ <;> rfl

end

/-! ## Creating directories -/

lemma createDirectory_grows {tree changed : FileTree} {path : String}
    (created : tree.createDirectory path = .ok changed) : tree.Grows changed := by
  rw [createDirectory] at created
  rcases hplace : tree.locate path with error | ⟨location, _ | node⟩
  · simp [hplace, bind, Except.bind] at created
  · have absent := at?_of_locate hplace
    simp only [hplace, bind, Except.bind, Except.ok.injEq] at created
    rw [← created]
    refine grows_put ?_ _
    rintro ⟨inner, hinner⟩
    simp [absent] at hinner
  · simp [hplace, bind, Except.bind] at created

lemma outcome_ensureDirectory (tree : FileTree) (path : String) :
    tree.outcome (ensureDirectory path) = match tree.createDirectory path with
      | .ok changed => (.ok (), changed)
      | .error error => (if tree.isDirectory path then .ok () else .error error, tree) := by
  cases hcreate : tree.createDirectory path <;>
    simp [outcome, ensureDirectory, FileStore.createDirectory, FileStore.isDirectory, update,
      hcreate, StateT.run, ExceptT.run, ExceptT.mk, pure, bind, StateT.bind] <;>
    rfl

lemma grows_ensureDirectory (tree : FileTree) (path : String) :
    tree.Grows (tree.outcome (ensureDirectory path)).2 := by
  rw [outcome_ensureDirectory]
  cases hcreate : tree.createDirectory path with
  | ok changed => exact createDirectory_grows hcreate
  | error error => exact .refl tree

lemma outcome_ensureDirectoryBelow_cons (tree : FileTree) (path parent : String)
    (above : List String) :
    tree.outcome (ensureDirectoryBelow path (parent :: above))
      = match tree.outcome (ensureDirectory path) with
        | (.error .notFound, changed) =>
          match changed.outcome (ensureDirectoryBelow parent above) with
          | (.ok (), grown) => grown.outcome (ensureDirectory path)
          | (.error error, grown) => (.error error, grown)
        | ended => ended := by
  simp only [outcome, ensureDirectoryBelow, bind, ExceptT.run, ExceptT.mk, StateT.run, StateT.bind]
  rcases (ensureDirectory path : ExceptT FileError (StateM FileTree) Unit) tree with
    ⟨error | done, changed⟩
  · cases error <;> try rfl
    simp only [StateT.bind]
    rcases (ensureDirectoryBelow parent above : ExceptT FileError (StateM FileTree) Unit) changed
      with ⟨error | done, grown⟩ <;> rfl
  · rfl

lemma grows_ensureDirectoryBelow (tree : FileTree) (path : String) (above : List String) :
    tree.Grows (tree.outcome (ensureDirectoryBelow path above)).2 := by
  induction above generalizing tree path with
  | nil => exact grows_ensureDirectory tree path
  | cons parent above ih =>
      rw [outcome_ensureDirectoryBelow_cons]
      have first := grows_ensureDirectory tree path
      rcases hfirst : tree.outcome (ensureDirectory path) with ⟨error | done, changed⟩
      · rw [hfirst] at first
        cases error <;> try exact first
        have second := ih changed parent
        rcases hsecond : changed.outcome (ensureDirectoryBelow parent above) with
          ⟨error | done, grown⟩ <;> rw [hsecond] at second <;> simp only [hsecond]
        · exact first.trans second
        · exact (first.trans second).trans (grows_ensureDirectory grown path)
      · rw [hfirst] at first
        exact first

theorem grows_withDirectory (tree : FileTree) (path : String) :
    tree.Grows (tree.withDirectory path) := by
  rw [withDirectory, after, createDirectories]
  split
  · exact .refl tree
  · exact grows_ensureDirectoryBelow tree path (ancestors path)

/-- The directories above a path are left alone where it can be had without them. -/
lemma outcome_createDirectories_of_ensured {tree changed : FileTree} {path : String}
    (nonempty : path ≠ "") (ensured : tree.outcome (ensureDirectory path) = (.ok (), changed)) :
    tree.outcome (createDirectories path) = (.ok (), changed) := by
  rw [createDirectories, if_neg (by simpa using nonempty)]
  cases ancestors path with
  | nil => exact ensured
  | cons parent above => rw [outcome_ensureDirectoryBelow_cons, ensured]

/-- A directory that exists is not created. -/
theorem outcome_createDirectories {tree : FileTree} {path : String}
    {entries : List (String × FileNode)} (found : tree.lookup path = .ok (.directory entries)) :
    tree.outcome (createDirectories path) = (.ok (), tree) := by
  obtain ⟨location, leads⟩ := lookup_eq_directory_iff.mp found
  refine outcome_createDirectories_of_ensured (locate_eq_ok_iff.mp leads).2.1 ?_
  have refused : tree.createDirectory path = .error .alreadyExists := by
    rw [createDirectory, leads]
    rfl
  rw [outcome_ensureDirectory, refused]
  simp [isDirectory, found]

/-- A directory of which only the last name is missing is created at once. -/
theorem outcome_createDirectories_of_missing {tree : FileTree} {path : String}
    {location : Location} (missing : tree.locate path = .ok ⟨location, none⟩) :
    tree.outcome (createDirectories path) = (.ok (), tree.put location (.directory [])) := by
  refine outcome_createDirectories_of_ensured (locate_eq_ok_iff.mp missing).2.1 ?_
  rw [outcome_ensureDirectory, createDirectory, missing]
  rfl

namespace Holding

variable {tree : FileTree} {entries : List (String × FileNode)} {name : String}

/-- A directory that relative paths can name at once. -/
theorem of_name (here : tree.root.at? tree.workingDirectory = some (.directory entries))
    (plain : PlainName name) {inner : List (String × FileNode)}
    (stands : entries.lookup name = some (.directory inner)) : tree.Holding name inner where
  grounded := ⟨entries, here⟩
  found := lookup_eq_directory_iff.mpr ⟨_, by rw [locate_name here plain, stands]⟩

/-- A name that is missing becomes an empty directory. -/
theorem of_missing (here : tree.root.at? tree.workingDirectory = some (.directory entries))
    (plain : PlainName name) (missing : entries.lookup name = none) :
    tree.outcome (createDirectories name) = (.ok (), tree.withDirectory name)
      ∧ (tree.withDirectory name).Holding name [] := by
  have created := outcome_createDirectories_of_missing
    (by rw [locate_name here plain, missing])
  have grown : tree.withDirectory name
      = tree.put (tree.workingDirectory ++ [name]) (.directory []) := congrArg Prod.snd created
  rw [grown]
  refine ⟨created, of_name (at?_put here name _) plain ?_⟩
  rw [lookup_putEntry, if_pos rfl]

end Holding

end PipelinedMachine.FileTree
