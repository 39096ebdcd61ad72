import ModePolicy.Files.Tree
import ModePolicy.Proofs.Outcome

/-!
# Paths in a tree of files

A path is looked up by going along its steps, which for a relative path begin with those of the
working directory (`FileTree.fromRoot`, `FileTree.find_eq`). In a tree as systems keep them
(`FileNode.IsTree`) the names in a directory are distinct, and none is a step to the parent, so what a
directory lists is what one finds under the paths of its files:

> `FileTree.probe_child`: a file or directory listed under a name is found under the path of that
> name, unless the system finds the path too long.

That a path is too long is the only way in which looking it up can fail. Where it does not, the system
*sees* the path (`FileTree.Sees`), be there anything or not.
-/

namespace ModePolicy

/-! ## Trees -/

/-- A name that a system gives to files: no step to the parent, without NUL, not too long. -/
structure IsFileName (name : String) : Prop where
  notParent : name ≠ ".."
  nulFree : '\x00' ∉ name.toList
  short : name.utf8ByteSize ≤ maxNameBytes

instance (name : String) : Decidable (IsFileName name) :=
  decidable_of_iff (name ≠ ".." ∧ '\x00' ∉ name.toList ∧ name.utf8ByteSize ≤ maxNameBytes)
    ⟨fun h => ⟨h.1, h.2.1, h.2.2⟩, fun h => ⟨h.notParent, h.nulFree, h.short⟩⟩

namespace FileNode

/-- A tree of files as a system keeps it: in each directory, names of files that are distinct. -/
inductive IsTree : FileNode → Prop
  | file (bytes : List UInt8) : IsTree (.file bytes)
  | directory {entries : List (String × FileNode)} (distinct : (entries.map (·.1)).Nodup)
    (named : ∀ e ∈ entries, IsFileName e.1) (inner : ∀ e ∈ entries, IsTree e.2) :
    IsTree (.directory entries)

theorem IsTree.empty : IsTree (.directory []) := .directory .nil (by simp) (by simp)

/-- One more file in a directory. -/
theorem IsTree.entry {name : String} {node : FileNode} {rest : List (String × FileNode)}
    (hnode : node.IsTree) (hrest : (FileNode.directory rest).IsTree) (hname : IsFileName name)
    (hnew : name ∉ rest.map (·.1)) : (FileNode.directory ((name, node) :: rest)).IsTree := by
  cases hrest with
  | directory distinct named inner =>
    exact .directory (List.nodup_cons.mpr ⟨hnew, distinct⟩) (List.forall_mem_cons.mpr ⟨hname, named⟩)
      (List.forall_mem_cons.mpr ⟨hnode, inner⟩)

/-- What is found under a name is listed under it, and the other way round if names are distinct. -/
theorem lookup_eq_some_iff {entries : List (String × FileNode)}
    (h : (entries.map (·.1)).Nodup) {name : String} {node : FileNode} :
    entries.lookup name = some node ↔ (name, node) ∈ entries := by
  induction entries with
  | nil => simp
  | cons e rest ih =>
    obtain ⟨hnew, hrest⟩ := List.nodup_cons.mp h
    rw [List.lookup_cons, List.mem_cons]
    by_cases hname : name = e.1
    · subst hname
      have hother : (e.1, node) ∉ rest := fun hmem => hnew (List.mem_map.mpr ⟨_, hmem, rfl⟩)
      simp [hother, Prod.ext_iff, eq_comm]
    · have hne : (name, node) ≠ e := fun heq => hname (congrArg Prod.fst heq)
      simp only [beq_false_of_ne hname, hne, false_or, ih hrest]

/-- Going along steps and then along further ones. -/
theorem follow_append {parents : List FileNode} {node : FileNode} {steps others : List String} :
    follow parents node (steps ++ others) =
      (follow parents node steps).bind fun r => follow r.1 r.2 others := by
  induction steps generalizing parents node with
  | nil => rfl
  | cons part rest ih =>
    cases node with
    | file bytes => rfl
    | directory entries =>
      simp only [List.cons_append, follow]
      split
      · cases parents with
        | nil => exact ih
        | cons parent above => exact ih
      · split
        · rfl
        · split
          · rfl
          · exact ih

/-- All nodes that are come to on the way are trees. -/
theorem IsTree.follow {parents : List FileNode} {node : FileNode} (hparents : ∀ q ∈ parents, q.IsTree)
    (hnode : node.IsTree) {steps : List String} {r : List FileNode × FileNode}
    (h : FileNode.follow parents node steps = .ok r) : r.2.IsTree := by
  induction steps generalizing parents node with
  | nil =>
    obtain rfl := Except.ok.inj h
    exact hnode
  | cons part rest ih =>
    cases hnode with
    | file bytes => exact absurd h (by simp [FileNode.follow])
    | @directory entries distinct named inner =>
      have hhere : (FileNode.directory entries).IsTree := .directory distinct named inner
      simp only [FileNode.follow] at h
      split at h
      · cases parents with
        | nil => exact ih (by simp) hhere h
        | cons parent above =>
          obtain ⟨hparent, habove⟩ := List.forall_mem_cons.mp hparents
          exact ih habove hparent h
      · split at h
        · exact absurd h (by simp)
        · split at h
          · exact absurd h (by simp)
          · next node hfound =>
            have hmem := (lookup_eq_some_iff distinct).mp hfound
            exact ih (List.forall_mem_cons.mpr ⟨hhere, hparents⟩) (inner _ hmem) h

end FileNode

/-! ## Paths -/

namespace FileTree

variable {t : FileTree} {p : Path} {name : String}

/-- The steps of a path from the root on. -/
def fromRoot (t : FileTree) (p : Path) : List String :=
  if p.anchor.isEmpty then t.workingDirectory ++ p.parts else p.parts

/-- A path is looked up by following its steps from the root, if it is not too long. -/
theorem find_eq (t : FileTree) (p : Path) :
    t.find p =
      if p.toString.utf8ByteSize > maxPathBytes then .error .nameTooLong
      else (t.root.follow [] (t.fromRoot p)).map (·.2) := by
  unfold find fromRoot
  by_cases hlong : p.toString.utf8ByteSize > maxPathBytes
  · simp only [if_pos hlong]
    rfl
  · simp only [if_neg hlong]
    split
    · rw [FileNode.follow_append]
      cases t.root.follow [] t.workingDirectory with
      | error problem => rfl
      | ok r =>
        show (r.2.follow r.1 p.parts).bind (fun q => .ok q.2) = (r.2.follow r.1 p.parts).map (·.2)
        cases r.2.follow r.1 p.parts <;> rfl
    · cases t.root.follow [] p.parts <;> rfl

theorem fromRoot_child : t.fromRoot (p.child name) = t.fromRoot p ++ [name] := by
  unfold fromRoot Path.child
  split <;> simp

theorem fromRoot_join {q : Path} (hq : q.anchor = "") :
    t.fromRoot (p.join q) = t.fromRoot p ++ q.parts := by
  by_cases hp : p.anchor = "" <;> simp [fromRoot, Path.join, hq, hp]

/-- The system does not find the path too long. -/
def Sees (t : FileTree) (p : Path) : Prop := ∃ found, t.probe p = .ok found

theorem probe_eq_some_iff {node : FileNode} :
    t.probe p = .ok (some node) ↔ p.hasNul = false ∧ t.find p = .ok node := by
  unfold probe
  by_cases hnul : p.hasNul = true
  · simp [hnul]
  · rw [if_neg hnul]
    cases t.find p with
    | ok found => simp [hnul]
    | error problem => cases problem <;> simp

/-- Nothing but its length makes looking up a path fail. -/
theorem probe_fails {e : FileError} (h : t.probe p = .error e) : e = ⟨.nameTooLong, p⟩ := by
  unfold probe at h
  split at h
  · exact absurd h (by simp)
  · split at h
    · exact absurd h (by simp)
    · exact (Except.error.inj h).symm
    · exact absurd h (by simp)

theorem not_sees_iff : ¬ t.Sees p ↔ t.probe p = .error ⟨.nameTooLong, p⟩ := by
  unfold Sees
  cases h : t.probe p with
  | ok found => simp
  | error e => simp [probe_fails h]

/-- The steps to what a path names. -/
theorem follow_of_find {node : FileNode} (h : t.find p = .ok node) :
    ∃ parents, t.root.follow [] (t.fromRoot p) = .ok (parents, node) := by
  rw [find_eq] at h
  split at h
  · exact absurd h (by simp)
  · cases hr : t.root.follow [] (t.fromRoot p) with
    | error problem => exact absurd h (by simp [hr, Except.map])
    | ok r =>
      obtain rfl : r.2 = node := by simpa [hr, Except.map] using h
      exact ⟨r.1, rfl⟩

/-- What a path names is a tree as well. -/
theorem isTree_of_probe (ht : t.root.IsTree) {node : FileNode} (h : t.probe p = .ok (some node)) :
    node.IsTree := by
  obtain ⟨-, hfind⟩ := probe_eq_some_iff.mp h
  obtain ⟨parents, hr⟩ := follow_of_find hfind
  exact ht.follow (by simp) hr

section Children

variable {entries : List (String × FileNode)} {node : FileNode}

/-- Looking for a file that a directory lists: the steps to it are those to the directory and one
more. -/
theorem find_child (ht : t.root.IsTree) (hdir : t.probe p = .ok (some (.directory entries)))
    (hmem : (name, node) ∈ entries) :
    t.find (p.child name) =
      if (p.child name).toString.utf8ByteSize > maxPathBytes then .error .nameTooLong
      else .ok node := by
  cases isTree_of_probe ht hdir with
  | directory distinct named inner =>
  have hname := named _ hmem
  obtain ⟨-, hfind⟩ := probe_eq_some_iff.mp hdir
  obtain ⟨parents, hr⟩ := follow_of_find hfind
  have hlast : (FileNode.directory entries).follow parents [name] =
      .ok (.directory entries :: parents, node) := by
    have hlookup := (FileNode.lookup_eq_some_iff distinct).mpr hmem
    simp [FileNode.follow, hname.notParent, Nat.not_lt.mpr hname.short, hlookup]
  rw [find_eq, fromRoot_child, FileNode.follow_append, hr, ok_bind, hlast]
  rfl

theorem hasNul_child (ht : t.root.IsTree) (hdir : t.probe p = .ok (some (.directory entries)))
    (hmem : (name, node) ∈ entries) : (p.child name).hasNul = false := by
  cases isTree_of_probe ht hdir with
  | directory distinct named inner =>
  have hname : '\x00' ∉ name.toList := (named _ hmem).nulFree
  obtain ⟨hnul, -⟩ := probe_eq_some_iff.mp hdir
  simp only [Path.hasNul, Path.child, List.any_append, Bool.or_eq_false_iff] at hnul ⊢
  exact ⟨hnul, by simpa using hname⟩

/-- **What a directory lists under a name is found under the path of that name**, if the system sees
it. -/
theorem probe_child (ht : t.root.IsTree) (hdir : t.probe p = .ok (some (.directory entries)))
    (hmem : (name, node) ∈ entries) (hsees : t.Sees (p.child name)) :
    t.probe (p.child name) = .ok (some node) := by
  have hnul := hasNul_child ht hdir hmem
  have hfind := find_child ht hdir hmem
  split at hfind
  · obtain ⟨found, hfound⟩ := hsees
    exact absurd hfound (by simp [probe, hnul, hfind])
  · exact probe_eq_some_iff.mpr ⟨hnul, hfind⟩

/-- The system sees a file that a directory lists exactly if its path has at most 4095 bytes. -/
theorem sees_child_iff (ht : t.root.IsTree) (hdir : t.probe p = .ok (some (.directory entries)))
    (hmem : (name, node) ∈ entries) :
    t.Sees (p.child name) ↔ (p.child name).toString.utf8ByteSize ≤ 4095 := by
  have hnul := hasNul_child ht hdir hmem
  have hfind := find_child ht hdir hmem
  split at hfind
  · next hlong => exact iff_of_false (by simp [Sees, probe, hnul, hfind]) (Nat.not_le.mpr hlong)
  · next hshort => exact iff_of_true (by simp [Sees, probe, hnul, hfind]) (Nat.not_lt.mp hshort)

end Children

end FileTree

end ModePolicy
