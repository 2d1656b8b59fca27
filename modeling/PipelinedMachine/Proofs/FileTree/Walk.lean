import Mathlib.Tactic.Common
import PipelinedMachine.FileTree

/-!
# Paths in a changing tree

A path is followed along the directories of a tree, so it matters to it only which locations hold
directories.  Putting a file, or a new directory, where no directory stands leaves every directory
in its place, and a path that led to a directory leads to the same location afterwards.

* `FileNode.lookup_putEntry`, `FileNode.names_putEntry` — the entries of a directory after a change;
* `FileNode.Follows` — a trail whose steps all exist in the tree;
* `FileNode.Keeps` — every directory of one tree is also one of the other;
* `FileNode.keeps_put` — putting something where no directory stands keeps all directories;
* `FileNode.walk_of_keeps` — the walk to a directory in a tree that keeps the directories;
* `FileNode.walk_name` — one name more than the walk to a directory.
-/

namespace PipelinedMachine.FileNode

/-! ## Entries -/

lemma lookup_cons_eq {α β : Type} [DecidableEq α] (name : α) (entry : α × β)
    (rest : List (α × β)) :
    (entry :: rest).lookup name = if name = entry.1 then some entry.2 else rest.lookup name := by
  rw [List.lookup_cons]
  by_cases h : name = entry.1
  · simp [h]
  · rw [beq_false_of_ne h, if_neg h]

lemma lookup_putEntry (name other : String) (node : FileNode)
    (entries : List (String × FileNode)) :
    (putEntry name node entries).lookup other
      = if other = name then some node else entries.lookup other := by
  induction entries with
  | nil => rw [putEntry, lookup_cons_eq]
  | cons entry rest ih =>
      by_cases hentry : entry.1 = name
      · by_cases h : other = name <;> simp [putEntry, hentry, lookup_cons_eq, h]
      · simp only [putEntry, hentry, if_false, lookup_cons_eq, ih]
        by_cases h : other = name
        · have hne : ¬other = entry.1 := fun heq => hentry (heq ▸ h)
          rw [if_neg hne, if_pos h, if_pos h]
        · simp only [h, if_false]

lemma mem_putEntry {name : String} {node : FileNode} {entries : List (String × FileNode)}
    {entry : String × FileNode} (h : entry ∈ putEntry name node entries) :
    entry = (name, node) ∨ entry ∈ entries := by
  induction entries with
  | nil => exact Or.inl (by simpa [putEntry] using h)
  | cons first rest ih =>
      by_cases hfirst : first.1 = name
      · simp only [putEntry, hfirst, if_true, List.mem_cons] at h
        exact h.imp_right (List.mem_cons_of_mem _)
      · simp only [putEntry, hfirst, if_false, List.mem_cons] at h
        rcases h with rfl | h
        · exact Or.inr List.mem_cons_self
        · exact (ih h).imp_right (List.mem_cons_of_mem _)

lemma mem_of_lookup {entries : List (String × FileNode)} {name : String} {node : FileNode}
    (h : entries.lookup name = some node) : (name, node) ∈ entries := by
  obtain ⟨before, after, rfl, -⟩ := List.lookup_eq_some_iff.mp h
  exact List.mem_append_right _ List.mem_cons_self

lemma exists_lookup_of_mem {entries : List (String × FileNode)} {entry : String × FileNode}
    (h : entry ∈ entries) : ∃ node, entries.lookup entry.1 = some node := by
  cases hnode : entries.lookup entry.1 with
  | some node => exact ⟨node, rfl⟩
  | none => simpa using List.lookup_eq_none_iff.mp hnode entry h

/-! ## Locations -/

/-- Whether a location holds a directory. -/
def HoldsDirectory (root : FileNode) (location : Location) : Prop :=
  ∃ entries, root.at? location = some (directory entries)

lemma at?_append (node : FileNode) (front back : Location) :
    node.at? (front ++ back) = (node.at? front).bind fun next => next.at? back := by
  induction front generalizing node with
  | nil => rfl
  | cons name front ih =>
      simp only [List.cons_append, at?, Option.bind_assoc]
      congr 1
      funext next
      exact ih next

lemma at?_snoc {root : FileNode} {location : Location} {node : FileNode}
    (h : root.at? location = some node) (name : String) :
    root.at? (location ++ [name]) = node.child? name := by
  rw [at?_append, h]
  simp [at?]

@[simp] lemma at?_file (contents : ByteArray) (name : String) (rest : Location) :
    (file contents).at? (name :: rest) = none := rfl

/-- Every directory of one tree is also one of the other. -/
def Keeps (root changed : FileNode) : Prop :=
  ∀ location, root.HoldsDirectory location → changed.HoldsDirectory location

lemma Keeps.refl (root : FileNode) : root.Keeps root := fun _ holds => holds

lemma Keeps.trans {root middle changed : FileNode} (first : root.Keeps middle)
    (second : middle.Keeps changed) : root.Keeps changed :=
  fun location holds => second location (first location holds)

/-! ## Putting something in a directory -/

lemma at?_put {root : FileNode} {location : Location} {entries : List (String × FileNode)}
    (h : root.at? location = some (directory entries)) (name : String) (node : FileNode) :
    (root.put (location ++ [name]) node).at? location
      = some (directory (putEntry name node entries)) := by
  induction location generalizing root with
  | nil =>
      obtain rfl : root = directory entries := by simpa [at?] using h
      rfl
  | cons first rest ih =>
      cases root with
      | file contents => simp at h
      | directory outer =>
          simp only [at?, child?] at h
          cases hfirst : outer.lookup first with
          | none => simp [hfirst] at h
          | some next =>
              rw [hfirst, Option.bind_some] at h
              have hput : (directory outer).put (first :: rest ++ [name]) node
                  = directory (putEntry first (next.put (rest ++ [name]) node) outer) := by
                cases rest <;> simp [put, hfirst]
              rw [hput]
              simp only [at?, child?, lookup_putEntry, if_true, Option.bind_some]
              exact ih h

/-- Putting something where no directory stands keeps every directory. -/
lemma keeps_put {root : FileNode} {location : Location}
    (free : ¬root.HoldsDirectory location) (node : FileNode) :
    root.Keeps (root.put location node) := by
  intro target ⟨found, hfound⟩
  fun_induction put root location node generalizing target with
  | case1 root =>
      cases root with
      | directory entries => exact absurd ⟨entries, rfl⟩ free
      | file contents => cases target <;> simp [at?, child?] at hfound
  | case2 => exact ⟨found, hfound⟩
  | case3 name entries =>
      cases target with
      | nil => exact ⟨_, rfl⟩
      | cons first rest =>
          simp only [at?, child?] at hfound
          by_cases hfirst : first = name
          · subst hfirst
            -- what stood there was no directory, so nothing stands below it
            cases hnode : entries.lookup first with
            | none => simp [hnode] at hfound
            | some next =>
                cases next with
                | directory inner => exact absurd ⟨inner, by simp [at?, child?, hnode]⟩ free
                | file contents => cases rest <;> simp [hnode, at?, child?] at hfound
          · exact ⟨found, by simpa [at?, child?, lookup_putEntry, hfirst] using hfound⟩
  | case4 first rest entries hrest next hfirst ih =>
      have below : ¬next.HoldsDirectory rest := by
        rintro ⟨inner, hinner⟩
        exact free ⟨inner, by simpa [at?, child?, hfirst] using hinner⟩
      cases target with
      | nil => exact ⟨_, rfl⟩
      | cons second below' =>
          simp only [at?, child?] at hfound
          by_cases hsecond : second = first
          · subst hsecond
            rw [hfirst, Option.bind_some] at hfound
            obtain ⟨kept, hkept⟩ := ih below below' hfound
            exact ⟨kept, by simpa [at?, child?, lookup_putEntry] using hkept⟩
          · exact ⟨found, by simpa [at?, child?, lookup_putEntry, hsecond] using hfound⟩
  | case5 => exact ⟨found, hfound⟩

/-! ## Trails -/

/-- A trail on which every step exists in the tree. -/
inductive Follows (root : FileNode) : List (String × FileNode) → Prop
  | start : Follows root []
  | enter {trail : List (String × FileNode)} {name : String} {node : FileNode} :
      Follows root trail → (arrived root trail).child? name = some node →
      Follows root ((name, node) :: trail)

lemma whereabouts_cons (name : String) (node : FileNode) (trail : List (String × FileNode)) :
    whereabouts ((name, node) :: trail) = whereabouts trail ++ [name] := by
  simp [whereabouts]

lemma Follows.tail {root : FileNode} {trail : List (String × FileNode)}
    (follows : Follows root trail) : Follows root trail.tail := by
  cases follows with
  | start => exact .start
  | enter before _ => exact before

lemma Follows.at?_whereabouts {root : FileNode} {trail : List (String × FileNode)}
    (follows : Follows root trail) :
    root.at? (whereabouts trail) = some (arrived root trail) := by
  induction follows with
  | start => rfl
  | enter _ child ih =>
      rw [whereabouts_cons, at?_snoc ih, child]
      rfl

lemma follows_trailTo {root : FileNode} {trail : List (String × FileNode)}
    (follows : Follows root trail) (location : Location) :
    Follows root (trailTo (arrived root trail) trail location) := by
  induction location generalizing trail with
  | nil => exact follows
  | cons name rest ih =>
      cases hchild : (arrived root trail).child? name with
      | none => simpa only [trailTo, hchild] using follows
      | some next =>
          simp only [trailTo, hchild]
          exact ih (follows.enter hchild)

lemma whereabouts_trailTo {node : FileNode} {location : Location} {last : FileNode}
    (reached : node.at? location = some last) (trail : List (String × FileNode)) :
    whereabouts (trailTo node trail location) = whereabouts trail ++ location := by
  induction location generalizing node trail with
  | nil => simp [trailTo]
  | cons name rest ih =>
      simp only [at?] at reached
      cases hchild : node.child? name with
      | none => simp [hchild] at reached
      | some next =>
          rw [hchild, Option.bind_some] at reached
          simp only [trailTo, hchild]
          rw [ih reached, whereabouts_cons, List.append_assoc, List.singleton_append]

/-! ## Walks -/

lemma walk_dot (root : FileNode) (trail : List (String × FileNode)) (rest : List String) :
    walk root trail ("." :: rest) = walk root trail rest := by
  conv_lhs => unfold walk
  rw [if_neg (by decide), if_pos rfl]

lemma walk_dots (root : FileNode) (trail : List (String × FileNode)) (rest : List String) :
    walk root trail (".." :: rest) = walk root trail.tail rest := by
  conv_lhs => unfold walk
  rw [if_neg (by decide), if_neg (by decide), if_pos rfl]

lemma walk_enter {root : FileNode} {trail : List (String × FileNode)} {name : String}
    {inner : List (String × FileNode)} (short : name.utf8ByteSize ≤ nameLimit) (dot : name ≠ ".")
    (dots : name ≠ "..") (child : (arrived root trail).child? name = some (directory inner))
    (rest : List String) :
    walk root trail (name :: rest) = walk root ((name, directory inner) :: trail) rest := by
  conv_lhs => unfold walk
  rw [if_neg (by omega), if_neg dot, if_neg dots, child]

/-- What the first name of a walk can be. -/
lemma walk_cons_cases {root : FileNode} {trail : List (String × FileNode)} {name : String}
    {rest : List String} {place : Place} (leads : walk root trail (name :: rest) = .ok place) :
    name = "." ∧ walk root trail rest = .ok place
      ∨ name = ".." ∧ walk root trail.tail rest = .ok place
      ∨ (∃ inner, name.utf8ByteSize ≤ nameLimit ∧ name ≠ "." ∧ name ≠ ".."
          ∧ (arrived root trail).child? name = some (directory inner)
          ∧ walk root ((name, directory inner) :: trail) rest = .ok place)
      ∨ rest = [] ∧ (∀ inner, (arrived root trail).child? name ≠ some (directory inner))
          ∧ place = ⟨whereabouts trail ++ [name], (arrived root trail).child? name⟩ := by
  unfold walk at leads
  split at leads
  · simp at leads
  · rename_i hshort
    split at leads
    · exact Or.inl ⟨‹_›, leads⟩
    · split at leads
      · exact Or.inr (Or.inl ⟨‹_›, leads⟩)
      · split at leads
        · rename_i inner hchild
          exact Or.inr (Or.inr (Or.inl ⟨inner, by omega, ‹_›, ‹_›, hchild, leads⟩))
        · rename_i hnot
          exact Or.inr (Or.inr (Or.inr ⟨rfl, hnot, (Except.ok.inj leads).symm⟩))
        · simp at leads
        · simp at leads

lemma whereabouts_tail {trail other : List (String × FileNode)}
    (h : whereabouts trail = whereabouts other) :
    whereabouts trail.tail = whereabouts other.tail := by
  have hmap : trail.map Prod.fst = other.map Prod.fst := List.reverse_inj.mp h
  simp only [whereabouts, List.map_tail, hmap]

/-- In a tree that keeps the directories, the walk to a directory ends in the same location. -/
lemma walk_of_keeps {root changed : FileNode} (keeps : root.Keeps changed)
    {trail other : List (String × FileNode)} (follows : Follows root trail)
    (follows' : Follows changed other) (same : whereabouts trail = whereabouts other)
    {names : List String} {location : Location} {entries : List (String × FileNode)}
    (leads : walk root trail names = .ok ⟨location, some (directory entries)⟩) :
    walk changed other names = .ok ⟨location, changed.at? location⟩ := by
  induction names generalizing trail other with
  | nil =>
      simp only [walk, Except.ok.injEq, Place.mk.injEq] at leads
      rw [walk, ← same, leads.1, ← leads.1, same, follows'.at?_whereabouts]
  | cons name rest ih =>
      -- a walk that ends in a directory enters it, so the last case does not occur
      rcases walk_cons_cases leads with
        ⟨rfl, leads⟩ | ⟨rfl, leads⟩ | ⟨inner, short, dot, dots, child, leads⟩ | ⟨-, hnot, hplace⟩
      · rw [walk_dot]
        exact ih follows follows' same leads
      · rw [walk_dots]
        exact ih follows.tail follows'.tail (whereabouts_tail same) leads
      · obtain ⟨kept, hkept⟩ := keeps (whereabouts trail ++ [name])
          ⟨inner, by rw [at?_snoc follows.at?_whereabouts, child]⟩
        rw [same, at?_snoc follows'.at?_whereabouts] at hkept
        rw [walk_enter short dot dots hkept]
        exact ih (follows.enter child) (follows'.enter hkept)
          (by rw [whereabouts_cons, whereabouts_cons, same]) leads
      · exact absurd (Place.mk.inj hplace).2.symm (hnot entries)

/-- One name more than the walk to a directory. -/
lemma walk_name {root : FileNode} {trail : List (String × FileNode)} {names : List String}
    {location : Location} {entries : List (String × FileNode)} {name : String}
    (leads : walk root trail names = .ok ⟨location, some (directory entries)⟩)
    (short : name.utf8ByteSize ≤ nameLimit) (dot : name ≠ ".") (dots : name ≠ "..") :
    walk root trail (names ++ [name]) = .ok ⟨location ++ [name], entries.lookup name⟩ := by
  induction names generalizing trail with
  | nil =>
      simp only [walk, Except.ok.injEq, Place.mk.injEq, Option.some.injEq] at leads
      obtain ⟨rfl, harrived⟩ := leads
      rw [List.nil_append]
      unfold walk
      rw [if_neg (by omega), if_neg dot, if_neg dots, harrived]
      simp only [child?]
      cases hnode : entries.lookup name with
      | none => rfl
      | some node => cases node <;> simp [walk, whereabouts_cons, arrived]
  | cons first rest ih =>
      rw [List.cons_append]
      rcases walk_cons_cases leads with
        ⟨rfl, leads⟩ | ⟨rfl, leads⟩ | ⟨inner, short, dot, dots, child, leads⟩ | ⟨-, hnot, hplace⟩
      · rw [walk_dot, ih leads]
      · rw [walk_dots, ih leads]
      · rw [walk_enter short dot dots child, ih leads]
      · exact absurd (Place.mk.inj hplace).2.symm (hnot entries)

/-- A walk finds what stands where it ends. -/
lemma at?_of_walk {root : FileNode} {trail : List (String × FileNode)}
    (follows : Follows root trail) {names : List String} {place : Place}
    (leads : walk root trail names = .ok place) :
    root.at? place.location = place.node? := by
  induction names generalizing trail with
  | nil =>
      simp only [walk, Except.ok.injEq] at leads
      rw [← leads]
      exact follows.at?_whereabouts
  | cons name rest ih =>
      rcases walk_cons_cases leads with
        ⟨-, leads⟩ | ⟨-, leads⟩ | ⟨inner, -, -, -, child, leads⟩ | ⟨-, -, rfl⟩
      · exact ih follows leads
      · exact ih follows.tail leads
      · exact ih (follows.enter child) leads
      · exact at?_snoc follows.at?_whereabouts name

end PipelinedMachine.FileNode
