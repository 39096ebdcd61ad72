import ModePolicy.Proofs.Files.Tree

/-!
# Trees that differ in some places only

A place is told by the names that lead to it from the root, without steps to the parent
(`FileNode.at?`). The steps of a path come to a place as well (`FileTree.place`): since there are no
links, a step to the parent just takes away the last name.

Two trees are alike outside some places if at every place that is not at or below one of them there is
a directory in both, or a file with the same bytes in both, or nothing in both
(`FileTree.AlikeOutside`). The order in which a directory lists its files may differ.

> `AlikeOutside.endsAlike`, `EndsAlike.looksAlike`: looking for a path that ends outside gives the same
> in both trees.

The invariant is that the way taken so far stands at the same place in both trees, with the
directories above it as its parents (`FileNode.Stands`). A path with steps to the parent may come by
a place where the trees differ, even if it ends outside; then it has to be assumed that the way goes
through in both or in neither (`FileTree.GoesAlike`).
-/

namespace ModePolicy

namespace FileNode

/-! ## Places -/

/-- What is at a place. -/
def at? : FileNode → List String → Option FileNode
  | node, [] => some node
  | .file _, _ :: _ => none
  | .directory entries, name :: names => (entries.lookup name).bind fun inner => inner.at? names

/-- The bytes of a file; a directory has none. -/
def bytes? : FileNode → Option (List UInt8)
  | .file bytes => some bytes
  | .directory _ => none

theorem at?_append (node : FileNode) (names others : List String) :
    node.at? (names ++ others) = (node.at? names).bind fun inner => inner.at? others := by
  induction names generalizing node with
  | nil => simp [at?]
  | cons name rest ih =>
    cases node with
    | file bytes => rfl
    | directory entries =>
      simp only [List.cons_append, at?]
      cases entries.lookup name with
      | none => rfl
      | some inner => exact ih inner

theorem mem_names_iff {entries : List (String × FileNode)} {name : String} :
    name ∈ entries.map (·.1) ↔ (entries.lookup name).isSome = true := by
  rw [List.lookup_isSome_iff, List.mem_map]
  exact exists_congr fun e => and_congr_right fun _ => by rw [beq_iff_eq, eq_comm]

/-- The place that steps come to from another. -/
def walk (place : List String) (steps : List String) : List String :=
  steps.foldl (fun place step => if step = ".." then place.dropLast else place ++ [step]) place

theorem walk_append (place steps others : List String) :
    walk place (steps ++ others) = walk (walk place steps) others := by
  simp [walk]

theorem walk_down {place : List String} {step : String} (h : step ≠ "..") (rest : List String) :
    walk place (step :: rest) = walk (place ++ [step]) rest := by
  simp [walk, h]

theorem walk_up (place : List String) (name : String) (rest : List String) :
    walk (place ++ [name]) (".." :: rest) = walk place rest := by
  simp [walk]

theorem walk_of_plain {place steps : List String} (h : ".." ∉ steps) :
    walk place steps = place ++ steps := by
  induction steps generalizing place with
  | nil => simp [walk]
  | cons step rest ih =>
    obtain ⟨hstep, hrest⟩ := not_or.mp (mt List.mem_cons.mpr h)
    rw [walk_down (Ne.symm hstep), ih hrest, List.append_assoc]
    rfl

/-- The parents and the node are those at a place. -/
inductive Stands (root : FileNode) : List String → List FileNode → FileNode → Prop
  | root : Stands root [] [] root
  | inner {place : List String} {parents : List FileNode} {entries : List (String × FileNode)}
      {name : String} {node : FileNode} (above : Stands root place parents (.directory entries))
      (found : entries.lookup name = some node) :
      Stands root (place ++ [name]) (.directory entries :: parents) node

section Standing

variable {root node : FileNode} {parents : List FileNode} {place steps : List String}

/-- At the root there are no parents; elsewhere the first of them has the node in it. -/
theorem Stands.inv (h : Stands root place parents node) :
    (place = [] ∧ parents = [] ∧ node = root) ∨
      ∃ q name entries above, place = q ++ [name] ∧ parents = .directory entries :: above ∧
        Stands root q above (.directory entries) ∧ entries.lookup name = some node := by
  cases h with
  | root => exact Or.inl ⟨rfl, rfl, rfl⟩
  | inner above found => exact Or.inr ⟨_, _, _, _, rfl, rfl, above, found⟩

theorem Stands.at?_eq (h : Stands root place parents node) : root.at? place = some node := by
  induction h with
  | root => rfl
  | inner above found ih => simp [at?_append, ih, at?, found]

/-- Going on from a place stands at the place that the steps come to. -/
theorem Stands.goes (h : Stands root place parents node) {r : List FileNode × FileNode}
    (hgoes : FileNode.follow parents node steps = .ok r) : Stands root (walk place steps) r.1 r.2 := by
  induction steps generalizing place parents node with
  | nil =>
    obtain rfl := Except.ok.inj hgoes
    exact h
  | cons step rest ih =>
    cases node with
    | file bytes => exact absurd hgoes (by simp [FileNode.follow])
    | directory entries =>
      simp only [FileNode.follow] at hgoes
      split at hgoes
      · next hparent =>
        obtain rfl : step = ".." := by simpa using hparent
        cases h with
        | root => exact ih .root hgoes
        | inner above found =>
          rw [walk_up]
          exact ih above hgoes
      · next hdown =>
        split at hgoes
        · exact absurd hgoes (by simp)
        · split at hgoes
          · exact absurd hgoes (by simp)
          · next inner hfound =>
            rw [walk_down (by simpa using hdown)]
            exact ih (.inner h hfound) hgoes

end Standing

/-! ## Two trees -/

/-- At a place there is a directory in both trees, or a file with the same bytes, or nothing. -/
def AlikeAt (root root' : FileNode) (place : List String) : Prop :=
  (root.at? place).map bytes? = (root'.at? place).map bytes?

/-- Two ways fail alike or stand at the same place. -/
inductive EndAlike (root root' : FileNode) (place : List String) :
    Except FileProblem (List FileNode × FileNode) → Except FileProblem (List FileNode × FileNode) →
      Prop
  | fails (problem : FileProblem) : EndAlike root root' place (.error problem) (.error problem)
  | arrives {r r' : List FileNode × FileNode} (here : Stands root place r.1 r.2)
      (there : Stands root' place r'.1 r'.2) : EndAlike root root' place (.ok r) (.ok r')

section Pairs

variable {root root' node node' : FileNode} {parents parents' : List FileNode}
  {place steps : List String}

/-- Nodes at a place where the trees are alike. -/
theorem Stands.bytes?_eq (h : Stands root place parents node) (h' : Stands root' place parents' node')
    (halike : AlikeAt root root' place) : node.bytes? = node'.bytes? := by
  simpa [AlikeAt, h.at?_eq, h'.at?_eq] using halike

/-- One step down from a directory. -/
theorem Stands.at?_inner {entries : List (String × FileNode)}
    (h : Stands root place parents (.directory entries)) (name : String) :
    root.at? (place ++ [name]) = entries.lookup name := by
  rw [at?_append, h.at?_eq]
  cases hfound : entries.lookup name <;> simp [at?, hfound]

/-- Steps from the same place end alike if the trees are alike at all the places on the way. -/
theorem Stands.follow_alike (h : Stands root place parents node)
    (h' : Stands root' place parents' node')
    (halike : ∀ stage, stage <+: steps → AlikeAt root root' (walk place stage)) :
    EndAlike root root' (walk place steps) (FileNode.follow parents node steps)
      (FileNode.follow parents' node' steps) := by
  induction steps generalizing place parents parents' node node' with
  | nil => exact .arrives h h'
  | cons step rest ih =>
    -- where the way stands there is the same file in both trees, or a directory in both
    have hbytes := h.bytes?_eq h' (halike [] List.nil_prefix)
    cases node with
    | file bytes =>
      cases node' with
      | file bytes' => exact .fails .notDirectory
      | directory entries' => exact absurd hbytes (by simp [bytes?])
    | directory entries =>
      cases node' with
      | file bytes' => exact absurd hbytes (by simp [bytes?])
      | directory entries' =>
        by_cases hstep : step = ".."
        · -- up, or nowhere at the root
          subst hstep
          rcases h.inv with ⟨rfl, rfl, hroot⟩ | ⟨q, name, outer, above, rfl, rfl, hup, -⟩
          · rcases h'.inv with ⟨-, rfl, hroot'⟩ | ⟨q', name', outer', above', hplace, -⟩
            · have hwalk : ∀ others, walk [] (".." :: others) = walk [] others := fun _ => rfl
              rw [hwalk]
              refine ih h h' fun stage hstage => ?_
              rw [← hwalk]
              exact halike (".." :: stage) (List.cons_prefix_cons.mpr ⟨rfl, hstage⟩)
            · exact absurd hplace (by simp)
          · rcases h'.inv with ⟨hplace, -⟩ | ⟨q', name', outer', above', hplace, rfl, hup', -⟩
            · exact absurd hplace (by simp)
            · obtain ⟨rfl, -⟩ := List.append_inj' hplace rfl
              rw [walk_up]
              refine ih hup hup' fun stage hstage => ?_
              rw [← walk_up q name]
              exact halike (".." :: stage) (List.cons_prefix_cons.mpr ⟨rfl, hstage⟩)
        · -- down, to a name that is listed in both or in neither
          have hdown : ¬ (step == "..") = true := by simpa using hstep
          rw [walk_down hstep]
          simp only [FileNode.follow, if_neg hdown]
          split
          · exact .fails .nameTooLong
          · have hnext := halike [step] ⟨rest, rfl⟩
            rw [walk_down hstep] at hnext
            unfold AlikeAt at hnext
            rw [show walk (place ++ [step]) [] = place ++ [step] from rfl, h.at?_inner,
              h'.at?_inner] at hnext
            cases hfound : entries.lookup step with
            | none =>
              rw [hfound, Option.map_none] at hnext
              rw [Option.map_eq_none_iff.mp hnext.symm]
              exact .fails .notFound
            | some inner =>
              rw [hfound, Option.map_some] at hnext
              obtain ⟨inner', hfound', -⟩ := Option.map_eq_some_iff.mp hnext.symm
              rw [hfound']
              refine ih (.inner h hfound) (.inner h' hfound') fun stage hstage => ?_
              rw [← walk_down hstep]
              exact halike (step :: stage) (List.cons_prefix_cons.mpr ⟨rfl, hstage⟩)

/-- Further steps from two ways that end alike. -/
theorem EndAlike.goOn {x x' : Except FileProblem (List FileNode × FileNode)}
    (h : EndAlike root root' place x x')
    (halike : ∀ stage, stage <+: steps → AlikeAt root root' (walk place stage)) :
    EndAlike root root' (walk place steps) (x.bind fun r => follow r.1 r.2 steps)
      (x'.bind fun r => follow r.1 r.2 steps) := by
  cases h with
  | fails problem => exact .fails problem
  | arrives here there => exact here.follow_alike there halike

end Pairs

end FileNode

/-! ## Paths in two trees -/

namespace FileTree

/-- The place that the steps of a path come to. -/
def place (t : FileTree) (p : Path) : List String := FileNode.walk [] (t.fromRoot p)

variable {t t' : FileTree} {places : List (List String)} {p q : Path} {place : List String}

/-- A place is at or below one of some places. -/
def Within (places : List (List String)) (place : List String) : Prop := ∃ top ∈ places, top <+: place

/-- Two trees differ only at or below some places. -/
structure AlikeOutside (places : List (List String)) (t t' : FileTree) : Prop where
  working : t.workingDirectory = t'.workingDirectory
  alike : ∀ place, ¬ Within places place → t.root.AlikeAt t'.root place

/-- A way with steps to the parent goes through in both trees or fails alike in both. Of other ways
nothing is asked. -/
def GoesAlike (t t' : FileTree) (p : Path) : Prop :=
  ".." ∈ t.fromRoot p →
    (t.root.follow [] (t.fromRoot p)).map (fun _ => ()) =
      (t'.root.follow [] (t'.fromRoot p)).map fun _ => ()

/-- The way of a path comes by none of some places, nor by a place below one. -/
def Avoids (t : FileTree) (places : List (List String)) (p : Path) : Prop :=
  ∀ stage, stage <+: t.fromRoot p → ¬ Within places (FileNode.walk [] stage)

/-- The ways of a path end alike, at a given place if they arrive. -/
def EndsAlike (t t' : FileTree) (p : Path) (place : List String) : Prop :=
  t.root.EndAlike t'.root place (t.root.follow [] (t.fromRoot p)) (t'.root.follow [] (t'.fromRoot p))

/-- Looking for a path gives the same, up to what is in a directory. -/
def LooksAlike (t t' : FileTree) (p : Path) : Prop :=
  (t.probe p).map (Option.map FileNode.bytes?) = (t'.probe p).map (Option.map FileNode.bytes?)

/-- The place of a relative path that is taken from another path. -/
theorem place_join (hq : q.anchor = "") (hplain : ".." ∉ q.parts) :
    t.place (p.join q) = t.place p ++ q.parts := by
  unfold place
  rw [fromRoot_join hq, FileNode.walk_append, FileNode.walk_of_plain hplain]

theorem Within.mono {stage : List String} (h : ¬ Within places place) (hstage : stage <+: place) :
    ¬ Within places stage := by
  intro hwithin
  obtain ⟨top, hmem, htop⟩ := hwithin
  exact h ⟨top, hmem, htop.trans hstage⟩

theorem AlikeOutside.fromRoot_eq (h : AlikeOutside places t t') (p : Path) :
    t'.fromRoot p = t.fromRoot p := by
  unfold fromRoot
  rw [h.working]

/-- The ways end alike if there is no difference on the way. -/
theorem AlikeOutside.endsAlike_of_avoids (h : AlikeOutside places t t') (havoid : t.Avoids places p) :
    EndsAlike t t' p (t.place p) := by
  unfold EndsAlike
  rw [h.fromRoot_eq]
  exact FileNode.Stands.root.follow_alike .root fun stage hstage => h.alike _ (havoid stage hstage)

/-- A way without steps to the parent comes by places above its end only. -/
theorem avoids_of_plain (hplain : ".." ∉ t.fromRoot p) (hout : ¬ Within places (t.place p)) :
    t.Avoids places p := by
  intro stage hstage
  have hplace : t.place p = t.fromRoot p := FileNode.walk_of_plain hplain
  rw [FileNode.walk_of_plain fun hmem => hplain (hstage.mem hmem), List.nil_append]
  exact Within.mono hout (hplace ▸ hstage)

theorem AlikeOutside.goesAlike_of_avoids (h : AlikeOutside places t t')
    (havoid : t.Avoids places p) : GoesAlike t t' p := by
  intro _
  have hend := h.endsAlike_of_avoids havoid
  unfold EndsAlike at hend
  generalize t.root.follow [] (t.fromRoot p) = x at hend ⊢
  generalize t'.root.follow [] (t'.fromRoot p) = x' at hend ⊢
  cases hend <;> rfl

/-- **A path that ends outside ends alike in both trees.** -/
theorem AlikeOutside.endsAlike (h : AlikeOutside places t t') (hgoes : GoesAlike t t' p)
    (hout : ¬ Within places (t.place p)) : EndsAlike t t' p (t.place p) := by
  by_cases hparent : ".." ∈ t.fromRoot p
  · have hsame := hgoes hparent
    unfold EndsAlike
    rw [h.fromRoot_eq] at hsame ⊢
    cases hr : t.root.follow [] (t.fromRoot p) with
    | error problem =>
      cases hr' : t'.root.follow [] (t.fromRoot p) with
      | error problem' =>
        obtain rfl : problem = problem' := by simpa [hr, hr', Except.map] using hsame
        exact .fails problem
      | ok r' => exact absurd hsame (by simp [hr, hr', Except.map])
    | ok r =>
      cases hr' : t'.root.follow [] (t.fromRoot p) with
      | error problem' => exact absurd hsame (by simp [hr, hr', Except.map])
      | ok r' => exact .arrives (FileNode.Stands.root.goes hr) (FileNode.Stands.root.goes hr')
  · exact h.endsAlike_of_avoids (avoids_of_plain hparent hout)

/-- And a relative path that is taken from it. -/
theorem AlikeOutside.endsAlike_join (h : AlikeOutside places t t') (hgoes : GoesAlike t t' p)
    (hq : q.anchor = "") (hplain : ".." ∉ q.parts) (hout : ¬ Within places (t.place p ++ q.parts)) :
    EndsAlike t t' (p.join q) (t.place p ++ q.parts) := by
  have hend := h.endsAlike hgoes (Within.mono hout (List.prefix_append _ _))
  unfold EndsAlike at hend ⊢
  rw [fromRoot_join hq, fromRoot_join hq, FileNode.follow_append, FileNode.follow_append,
    ← FileNode.walk_of_plain hplain]
  refine hend.goOn fun stage hstage => h.alike _ (Within.mono hout ?_)
  rw [FileNode.walk_of_plain fun hmem => hplain (hstage.mem hmem)]
  exact (List.prefix_append_right_inj _).mpr hstage

/-- And a file under it. -/
theorem EndsAlike.child {name : String} (h : EndsAlike t t' p place) (hname : name ≠ "..")
    (hhere : t.root.AlikeAt t'.root place) (halike : t.root.AlikeAt t'.root (place ++ [name])) :
    EndsAlike t t' (p.child name) (place ++ [name]) := by
  have hplain : ".." ∉ [name] := by simpa using Ne.symm hname
  unfold EndsAlike at h ⊢
  rw [fromRoot_child, fromRoot_child, FileNode.follow_append, FileNode.follow_append,
    ← FileNode.walk_of_plain hplain]
  refine h.goOn fun stage hstage => ?_
  rw [FileNode.walk_of_plain fun hmem => hplain (hstage.mem hmem)]
  rcases List.prefix_concat_iff.mp (show stage <+: [] ++ [name] from hstage) with rfl | hnil
  · exact halike
  · rw [List.prefix_nil.mp hnil, List.append_nil]
    exact hhere

/-- **Looking for a path that ends alike gives the same**, where the trees are alike. -/
theorem EndsAlike.looksAlike (h : EndsAlike t t' p place) (halike : t.root.AlikeAt t'.root place) :
    LooksAlike t t' p := by
  have hfind : (t.find p).map FileNode.bytes? = (t'.find p).map FileNode.bytes? := by
    rw [find_eq, find_eq]
    split
    · rfl
    · unfold EndsAlike at h
      generalize t.root.follow [] (t.fromRoot p) = x at h ⊢
      generalize t'.root.follow [] (t'.fromRoot p) = x' at h ⊢
      cases h with
      | fails problem => rfl
      | arrives here there => exact congrArg Except.ok (here.bytes?_eq there halike)
  unfold LooksAlike probe
  split
  · rfl
  · cases hfound : t.find p with
    | ok node =>
      cases hfound' : t'.find p with
      | ok node' => simpa [hfound, hfound', Except.map] using hfind
      | error problem => exact absurd hfind (by simp [hfound, hfound', Except.map])
    | error problem =>
      cases hfound' : t'.find p with
      | ok node' => exact absurd hfind (by simp [hfound, hfound', Except.map])
      | error problem' =>
        obtain rfl : problem = problem' := by simpa [hfound, hfound', Except.map] using hfind
        cases problem <;> rfl

/-- Directories that are found at the end list the same names. -/
theorem EndsAlike.lists {entries entries' : List (String × FileNode)} {name : String}
    (h : EndsAlike t t' p place) (halike : t.root.AlikeAt t'.root (place ++ [name]))
    (hdir : t.probe p = .ok (some (.directory entries)))
    (hdir' : t'.probe p = .ok (some (.directory entries'))) :
    name ∈ entries.map (·.1) ↔ name ∈ entries'.map (·.1) := by
  obtain ⟨-, hfind⟩ := probe_eq_some_iff.mp hdir
  obtain ⟨-, hfind'⟩ := probe_eq_some_iff.mp hdir'
  obtain ⟨parents, hr⟩ := follow_of_find hfind
  obtain ⟨parents', hr'⟩ := follow_of_find hfind'
  unfold EndsAlike at h
  rw [hr, hr'] at h
  cases h with
  | arrives here there =>
    unfold FileNode.AlikeAt at halike
    rw [here.at?_inner, there.at?_inner] at halike
    rw [FileNode.mem_names_iff, FileNode.mem_names_iff, ← Option.isSome_map, halike,
      Option.isSome_map]

/-- What looking for a path can give in two trees where it gives the same. -/
theorem LooksAlike.cases (h : LooksAlike t t' p) :
    (∃ e, t.probe p = .error e ∧ t'.probe p = .error e) ∨
    (t.probe p = .ok none ∧ t'.probe p = .ok none) ∨
    (∃ bytes, t.probe p = .ok (some (.file bytes)) ∧ t'.probe p = .ok (some (.file bytes))) ∨
    ∃ entries entries', t.probe p = .ok (some (.directory entries)) ∧
      t'.probe p = .ok (some (.directory entries')) := by
  unfold LooksAlike at h
  cases hfound : t.probe p with
  | error e =>
    cases hfound' : t'.probe p with
    | error e' =>
      obtain rfl : e = e' := by simpa [hfound, hfound', Except.map] using h
      exact Or.inl ⟨e, rfl, rfl⟩
    | ok found' => exact absurd h (by simp [hfound, hfound', Except.map])
  | ok found =>
    cases hfound' : t'.probe p with
    | error e' => exact absurd h (by simp [hfound, hfound', Except.map])
    | ok found' =>
      have hbytes : found.map FileNode.bytes? = found'.map FileNode.bytes? := by
        simpa [hfound, hfound', Except.map] using h
      match found, found' with
      | none, none => exact Or.inr (Or.inl ⟨rfl, rfl⟩)
      | none, some node => exact absurd hbytes (by simp)
      | some node, none => exact absurd hbytes (by simp)
      | some (.file bytes), some (.file bytes') =>
        obtain rfl : bytes = bytes' := by simpa [FileNode.bytes?] using hbytes
        exact Or.inr (Or.inr (Or.inl ⟨bytes, rfl, rfl⟩))
      | some (.file bytes), some (.directory entries) =>
        exact absurd hbytes (by simp [FileNode.bytes?])
      | some (.directory entries), some (.file bytes) =>
        exact absurd hbytes (by simp [FileNode.bytes?])
      | some (.directory entries), some (.directory entries') =>
        exact Or.inr (Or.inr (Or.inr ⟨entries, entries', rfl, rfl⟩))

/-- A directory, the names in it and the files in it are the same in both trees. -/
structure SameIn (t t' : FileTree) (directory : Path) : Prop where
  looks : LooksAlike t t' directory
  lists : ∀ entries entries', t.probe directory = .ok (some (.directory entries)) →
    t'.probe directory = .ok (some (.directory entries')) →
    ∀ name, name ∈ entries.map (·.1) ↔ name ∈ entries'.map (·.1)
  inner : ∀ name, name ≠ ".." → LooksAlike t t' (directory.child name)

/-- A directory in which no file is within the places where the trees differ. -/
theorem AlikeOutside.sameIn (h : AlikeOutside places t t') (hend : EndsAlike t t' p place)
    (hout : ∀ name, ¬ Within places (place ++ [name])) : SameIn t t' p := by
  have hhere : t.root.AlikeAt t'.root place :=
    h.alike _ (Within.mono (hout "") (List.prefix_append _ _))
  have hinner : ∀ name, t.root.AlikeAt t'.root (place ++ [name]) := fun name => h.alike _ (hout name)
  exact {
    looks := hend.looksAlike hhere
    lists := fun entries entries' hdir hdir' name => hend.lists (hinner name) hdir hdir'
    inner := fun name hname => (hend.child hname hhere (hinner name)).looksAlike (hinner name) }

/-! ## What is found outside -/

/-- A path that both trees have leads to the same place. -/
theorem goesAlike_of_found {node node' : FileNode} (hfind : t.find p = .ok node)
    (hfind' : t'.find p = .ok node') : GoesAlike t t' p := by
  intro _
  obtain ⟨parents, hr⟩ := follow_of_find hfind
  obtain ⟨parents', hr'⟩ := follow_of_find hfind'
  rw [hr, hr']
  rfl

section Outside

variable (h : AlikeOutside places t t') (hgoes : GoesAlike t t' p)

include h hgoes

/-- A directory that is neither within the places where the trees differ nor has one of them in it. -/
theorem AlikeOutside.sameIn_of_place (hout : ∀ name, ¬ Within places (t.place p ++ [name])) :
    SameIn t t' p :=
  h.sameIn (h.endsAlike hgoes (Within.mono (hout "") (List.prefix_append _ _))) hout

variable (hq : q.anchor = "") (hplain : ".." ∉ q.parts)

include hq hplain

theorem AlikeOutside.looksAlike_join (hout : ¬ Within places (t.place p ++ q.parts)) :
    LooksAlike t t' (p.join q) :=
  (h.endsAlike_join hgoes hq hplain hout).looksAlike (h.alike _ hout)

theorem AlikeOutside.sameIn_join (hout : ∀ name, ¬ Within places (t.place p ++ q.parts ++ [name])) :
    SameIn t t' (p.join q) :=
  h.sameIn (h.endsAlike_join hgoes hq hplain (Within.mono (hout "") (List.prefix_append _ _))) hout

end Outside

end FileTree

end ModePolicy
