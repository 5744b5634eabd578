import Mathlib.Data.List.TakeWhile
import StubCompiler.Files.Tree

/-!
# What writing changes

To write a file, the directories in which it lies are made first.  Directories are only made where
nothing is, on the way to the file, and none of them ever goes away; the write itself changes the one
place to which the path leads.
-/

namespace StubCompiler

/-! ### Steps that may fail -/

theorem bind_eq_ok_iff {ε α β : Type} {x : Except ε α} {f : α → Except ε β} {b : β} :
    (x >>= f) = .ok b ↔ ∃ a, x = .ok a ∧ f a = .ok b := by
  cases x with
  | error e => exact ⟨fun h => (nomatch h), fun ⟨a, h, _⟩ => (nomatch h)⟩
  | ok a => exact ⟨fun h => ⟨a, rfl, h⟩, fun ⟨a', h, h'⟩ => by cases h; exact h'⟩

namespace FileTree

/-! ### Where paths lead -/

def LeadsTo (tree : FileTree) (path : Text) (here : Location) : Prop :=
  ∃ ps, pieces path = .ok ps ∧ tree.follow ps = .ok here

/-- Every directory of the one tree is a directory of the other, with the same rights. -/
structure KeepsDirectories (before after : FileTree) : Prop where
  working : after.working = before.working
  allows : after.allows = before.allows
  directory : ∀ here, before.get? here = some .directory → after.get? here = some .directory

theorem KeepsDirectories.refl (tree : FileTree) : tree.KeepsDirectories tree := ⟨rfl, rfl, fun _ h => h⟩

theorem KeepsDirectories.trans {a b c : FileTree} (h : a.KeepsDirectories b)
    (h' : b.KeepsDirectories c) : a.KeepsDirectories c :=
  ⟨h'.working.trans h.working, h'.allows.trans h.allows,
    fun here hdir => h'.directory here (h.directory here hdir)⟩

/-- A node put where no directory is takes none away. -/
theorem keepsDirectories_insert {tree : FileTree} {here : Location} (node : Node) (hne : here ≠ [])
    (h : tree.get? here ≠ some .directory) : tree.KeepsDirectories (tree.insert here node) := by
  refine ⟨rfl, rfl, fun there hthere => ?_⟩
  rw [get?_insert tree there node hne]
  split
  · rename_i heq
    subst heq
    exact absurd hthere h
  · exact hthere

/-! ### Following paths in a tree that has grown -/

section
variable {tree tree' : FileTree} (h : tree.KeepsDirectories tree')
include h

theorem step_of_keepsDirectories {here next : Location} {piece : Text}
    (hstep : tree.step here piece = .ok next) : tree'.step here piece = .ok next := by
  -- A step can only be made from a directory, and what comes of it is a matter of the rights alone.
  unfold step at hstep ⊢
  cases hnode : tree.get? here with
  | none =>
    rw [hnode] at hstep
    cases hstep
  | some node =>
    rw [hnode] at hstep
    cases node with
    | file content => cases hstep
    | directory =>
      rw [h.directory here hnode, h.allows]
      exact hstep

theorem foldlM_step_of_keepsDirectories {ps : List Text} {here next : Location}
    (hfold : ps.foldlM tree.step here = .ok next) : ps.foldlM tree'.step here = .ok next := by
  induction ps generalizing here with
  | nil => exact hfold
  | cons piece ps ih =>
    rw [List.foldlM_cons] at hfold ⊢
    obtain ⟨there, hstep, hrest⟩ := bind_eq_ok_iff.1 hfold
    exact bind_eq_ok_iff.2 ⟨there, step_of_keepsDirectories h hstep, ih hrest⟩

theorem follow_of_keepsDirectories {ps : List Text} {here : Location}
    (hfollow : tree.follow ps = .ok here) : tree'.follow ps = .ok here := by
  have hstart : tree'.start ps = tree.start ps := by rw [start, start, h.working]
  rw [follow, hstart]
  exact foldlM_step_of_keepsDirectories h hfollow

theorem LeadsTo.of_keepsDirectories {path : Text} {here : Location} (hpath : tree.LeadsTo path here) :
    tree'.LeadsTo path here := by
  obtain ⟨ps, hps, hfollow⟩ := hpath
  exact ⟨ps, hps, follow_of_keepsDirectories h hfollow⟩

end

/-! ### The last step of a path -/

theorem follow_of_directory {tree : FileTree} {ps : List Text} {here : Location}
    (h : tree.directory ps = .ok here) : tree.follow ps = .ok here := by
  obtain ⟨found, hfollow, h⟩ := bind_eq_ok_iff.1 h
  split at h
  · cases h
  · cases h
  · split at h
    · obtain rfl : found = here := Except.ok.inj h
      exact hfollow
    · cases h

/-- A list of pieces whose last ones, as far as they are empty, do not count. -/
theorem exists_replicate_of_dropWhile {ps before : List Text} {piece : Text}
    (h : ps.reverse.dropWhile (· = []) = piece :: before) :
    piece ≠ [] ∧ ∃ n, ps = before.reverse ++ piece :: List.replicate n [] := by
  have hpiece : piece ≠ [] := by
    have hhead := List.head?_dropWhile_not (fun p : Text => decide (p = [])) ps.reverse
    rw [h] at hhead
    simpa using hhead
  have hempty : ∀ p ∈ ps.reverse.takeWhile (· = []), p = [] := by
    intro p hp
    simpa using List.mem_takeWhile_imp hp
  have hsplit := List.takeWhile_append_dropWhile (p := fun p : Text => decide (p = [])) (l := ps.reverse)
  rw [h, List.eq_replicate_of_mem hempty] at hsplit
  generalize (ps.reverse.takeWhile (· = [])).length = n at hsplit
  refine ⟨hpiece, n, List.reverse_inj.1 ?_⟩
  rw [← hsplit]
  simp

theorem lastStep_eq_ok {tree : FileTree} {path piece : Text} {above : Location}
    (h : tree.lastStep path = .ok (above, piece)) :
    above = [] ∧ piece = "." ∨
      piece ≠ [] ∧ ∃ before n, pieces path = .ok (before ++ piece :: List.replicate n []) ∧
        tree.follow before = .ok above := by
  obtain ⟨ps, hps, h⟩ := bind_eq_ok_iff.1 h
  split at h
  · cases h
    exact Or.inl ⟨rfl, rfl⟩
  · rename_i last before hdrop
    obtain ⟨found, hfound, h⟩ := bind_eq_ok_iff.1 h
    cases h
    obtain ⟨hne, n, rfl⟩ := exists_replicate_of_dropWhile hdrop
    exact Or.inr ⟨hne, before.reverse, n, hps, follow_of_directory hfound⟩

/-- A dot at the root leads to the root. -/
theorem step_root_dot {tree : FileTree} {here : Location} (h : tree.step [] "." = .ok here) :
    here = [] := by
  have hroot : tree.get? [] = some .directory := rfl
  rw [step, hroot] at h
  dsimp only at h
  split at h
  · exact (Except.ok.inj h).symm
  · split at h
    · cases h
    · exact (Except.ok.inj h).symm

theorem follow_append {tree : FileTree} {before rest : List Text} {piece : Text} (hne : piece ≠ []) :
    tree.follow (before ++ piece :: rest) =
      tree.follow before >>= fun here => (piece :: rest).foldlM tree.step here := by
  have hstart : tree.start (before ++ piece :: rest) = tree.start before := by
    cases before with
    | nil => simp [start, hne]
    | cons p ps => rfl
  rw [follow, hstart, List.foldlM_append]
  rfl

/-- Empty pieces stay at a directory. -/
theorem foldlM_replicate {tree : FileTree} {here : Location} (h : tree.get? here = some .directory)
    (n : Nat) : (List.replicate n []).foldlM tree.step here = .ok here := by
  induction n with
  | zero => rfl
  | succ n ih =>
    have hstep : tree.step here [] = .ok here := by
      rw [step, h]
      rfl
    rw [List.replicate_succ, List.foldlM_cons, hstep]
    exact ih

/-! ### Making directories -/

/-- A directory that is made is made where nothing was, and there the path leads. -/
theorem makeDirectory_cases {tree tree' : FileTree} {path : Text}
    (h : tree.makeDirectory path = .ok tree') :
    tree' = tree ∨ ∃ here, here ≠ [] ∧ tree.get? here = none ∧ tree' = tree.insert here .directory ∧
      tree'.LeadsTo path here := by
  obtain ⟨⟨above, piece⟩, hlast, h⟩ := bind_eq_ok_iff.1 h
  obtain ⟨here, hstep, h⟩ := bind_eq_ok_iff.1 h
  cases hget : tree.get? here with
  | some node =>
    rw [hget] at h
    cases node with
    | directory => exact Or.inl (Except.ok.inj h).symm
    | file content => cases h
  | none =>
    rw [hget] at h
    dsimp only at h
    split at h
    · obtain rfl : tree.insert here .directory = tree' := Except.ok.inj h
      have hne : here ≠ [] := by
        rintro rfl
        simp [get?] at hget
      have hkeep : tree.KeepsDirectories (tree.insert here .directory) :=
        keepsDirectories_insert .directory hne (by simp [hget])
      refine Or.inr ⟨here, hne, hget, rfl, ?_⟩
      rcases lastStep_eq_ok hlast with ⟨rfl, rfl⟩ | ⟨hpiece, before, n, hps, hfollow⟩
      · exact absurd (step_root_dot hstep) hne
      · have hmade : (tree.insert here .directory).get? here = some .directory := by
          rw [get?_insert tree here .directory hne, if_pos rfl]
        refine ⟨_, hps, ?_⟩
        rw [follow_append hpiece]
        refine bind_eq_ok_iff.2 ⟨above, follow_of_keepsDirectories hkeep hfollow, ?_⟩
        rw [List.foldlM_cons]
        exact bind_eq_ok_iff.2 ⟨here, step_of_keepsDirectories hkeep hstep, foldlM_replicate hmade n⟩
    · cases h

/-- What may have happened to the tree when directories are made at some paths. -/
structure Made (before after : FileTree) (paths : List Text) : Prop where
  keeps : before.KeepsDirectories after
  frame : ∀ there, after.get? there = before.get? there ∨
    before.get? there = none ∧ after.get? there = some .directory ∧
      ∃ path ∈ paths, after.LeadsTo path there

theorem Made.refl (tree : FileTree) (paths : List Text) : tree.Made tree paths :=
  ⟨.refl tree, fun _ => Or.inl rfl⟩

theorem Made.trans {a b c : FileTree} {paths more all : List Text} (h : a.Made b paths)
    (h' : b.Made c more) (hpaths : paths ⊆ all) (hmore : more ⊆ all) : a.Made c all := by
  refine ⟨h.keeps.trans h'.keeps, fun there => ?_⟩
  rcases h'.frame there with hsame | ⟨hnone, hdir, path, hpath, hleads⟩
  · rcases h.frame there with hsame' | ⟨hnone, hdir, path, hpath, hleads⟩
    · exact Or.inl (hsame.trans hsame')
    · exact Or.inr ⟨hnone, hsame.trans hdir, path, hpaths hpath, hleads.of_keepsDirectories h'.keeps⟩
  · rcases h.frame there with hsame' | ⟨-, hdir', -⟩
    · exact Or.inr ⟨hsame'.symm.trans hnone, hdir, path, hmore hpath, hleads⟩
    · rw [hdir'] at hnone
      cases hnone

theorem made_of_makeDirectory {tree tree' : FileTree} {path : Text}
    (h : tree.makeDirectory path = .ok tree') : tree.Made tree' [path] := by
  rcases makeDirectory_cases h with rfl | ⟨here, hne, hnone, rfl, hleads⟩
  · exact .refl tree' [path]
  · refine ⟨keepsDirectories_insert .directory hne (by simp [hnone]), fun there => ?_⟩
    rw [get?_insert tree there .directory hne]
    split
    · rename_i heq
      subst heq
      exact Or.inr ⟨hnone, rfl, path, by simp, hleads⟩
    · exact Or.inl rfl

theorem made_of_makeDirectories (tree : FileTree) (paths : List Text) :
    tree.Made (tree.makeDirectories paths).1 paths := by
  induction paths with
  | nil => exact .refl tree []
  | cons path above ih =>
    rw [makeDirectories]
    split
    · rename_i made hmade
      exact (made_of_makeDirectory hmade).trans (.refl made []) (by simp) (by simp)
    · -- The directory above is made first, and then the directory itself.
      split
      · rename_i made hmade
        rw [hmade] at ih
        split
        · rename_i last hlast
          exact ih.trans (made_of_makeDirectory hlast) (List.subset_cons_self path above) (by simp)
        · exact ih.trans (.refl made []) (List.subset_cons_self path above) (by simp)
      · exact ih.trans (.refl _ []) (List.subset_cons_self path above) (by simp)
    · exact .refl tree (path :: above)

/-! ### Writing -/

theorem getLast?_splitOn_ne {mark : Char} {t : Text} (hne : t ≠ []) (hlast : t.getLast? ≠ some mark) :
    (t.splitOn mark).getLast? ≠ some [] := by
  induction t with
  | nil => exact absurd rfl hne
  | cons c t ih =>
    rw [List.splitOn_cons_eq_if_modifyHead]
    cases t with
    | nil =>
      have hc : c ≠ mark := by simpa using hlast
      simp [hc]
    | cons d t =>
      have hrest := ih (List.cons_ne_nil d t) (by simpa [List.getLast?_cons_cons] using hlast)
      cases hs : (d :: t).splitOn mark with
      | nil => exact absurd hs (List.splitOn_ne_nil mark (d :: t))
      | cons u us =>
        rw [hs] at hrest
        split
        · rwa [List.getLast?_cons_cons]
        · rw [List.modifyHead_cons]
          cases us with
          | nil => simp
          | cons v vs =>
            rw [List.getLast?_cons_cons] at hrest ⊢
            exact hrest

theorem target_eq_ok {tree : FileTree} {path : Text} {here : Location}
    (h : tree.target path = .ok here) :
    ∃ above piece, tree.lastStep path = .ok (above, piece) ∧ piece ≠ "." ∧ piece ≠ ".." ∧
      path.getLast? ≠ some '/' ∧ tree.step above piece = .ok here ∧
      tree.get? here ≠ some .directory := by
  obtain ⟨⟨above, piece⟩, hlast, h⟩ := bind_eq_ok_iff.1 h
  dsimp only at h
  split at h
  · cases h
  · rename_i hfile
    simp only [Bool.or_eq_true, decide_eq_true_eq, not_or] at hfile
    obtain ⟨found, hstep, h⟩ := bind_eq_ok_iff.1 h
    have hplace : found = here ∧ tree.get? found ≠ some .directory := by
      split at h
      · cases h
      all_goals
        rename_i hnode
        split at h
        · exact ⟨Except.ok.inj h, by simp [hnode]⟩
        · cases h
    obtain ⟨rfl, hnode⟩ := hplace
    exact ⟨above, piece, hlast, hfile.1.1, hfile.1.2, hfile.2, hstep, hnode⟩

/-- A step by a name leads below a directory, so not to the root. -/
theorem ne_nil_of_step {tree : FileTree} {above here : Location} {piece : Text}
    (h : tree.step above piece = .ok here) (hnil : piece ≠ []) (hdot : piece ≠ ".")
    (hdots : piece ≠ "..") : here ≠ [] := by
  unfold step at h
  split at h
  · cases h
  · cases h
  · rw [if_neg hnil, if_neg hdot, if_neg hdots] at h
    split at h
    · cases h
    · split at h
      · cases h
      · obtain rfl : above ++ [piece] = here := Except.ok.inj h
        exact List.append_ne_nil_of_right_ne_nil above (List.cons_ne_nil piece [])

theorem pieces_eq_ok {path : Text} {ps : List Text} (h : pieces path = .ok ps) :
    path ≠ [] ∧ ps = path.splitOn '/' := by
  unfold pieces at h
  split at h
  · cases h
  · split at h
    · cases h
    · rename_i hne
      split at h
      · cases h
      · exact ⟨hne, (Except.ok.inj h).symm⟩

/-- The write puts the text where the path leads, and nothing else changes. -/
theorem write_cases {tree tree' : FileTree} {path text : Text} (h : tree.write path text = .ok tree') :
    ∃ here, here ≠ [] ∧ tree.get? here ≠ some .directory ∧
      tree' = tree.insert here (.file (.text text)) ∧ tree'.LeadsTo path here := by
  obtain ⟨here, htarget, h⟩ := bind_eq_ok_iff.1 h
  obtain rfl : tree.insert here (.file (.text text)) = tree' := Except.ok.inj h
  obtain ⟨above, piece, hlast, hdot, hdots, hslash, hstep, hnode⟩ := target_eq_ok htarget
  rcases lastStep_eq_ok hlast with ⟨-, hpiece⟩ | ⟨hpiece, before, n, hps, hfollow⟩
  · exact absurd hpiece hdot
  · have hne := ne_nil_of_step hstep hpiece hdot hdots
    have hkeep := keepsDirectories_insert (.file (.text text)) hne hnode
    -- A path without a slash at its end has no empty piece there.
    obtain ⟨hpath, hsplit⟩ := pieces_eq_ok hps
    have hlast := getLast?_splitOn_ne hpath hslash
    rw [← hsplit] at hlast
    cases n with
    | succ n => simp [List.getLast?_append, List.getLast?_cons, List.replicate_succ'] at hlast
    | zero =>
      refine ⟨here, hne, hnode, rfl, _, hps, ?_⟩
      rw [follow_append hpiece]
      refine bind_eq_ok_iff.2 ⟨above, follow_of_keepsDirectories hkeep hfollow, ?_⟩
      rw [List.replicate_zero, List.foldlM_cons]
      exact bind_eq_ok_iff.2 ⟨here, step_of_keepsDirectories hkeep hstep, rfl⟩

theorem read_of_leadsTo {tree : FileTree} {path text : Text} {here : Location}
    (h : tree.LeadsTo path here) (hfile : tree.get? here = some (.file (.text text)))
    (hright : tree.allows .read here = true) : tree.read path = .ok text := by
  obtain ⟨ps, hps, hfollow⟩ := h
  refine bind_eq_ok_iff.2 ⟨ps, hps, bind_eq_ok_iff.2 ⟨here, hfollow, ?_⟩⟩
  rw [hfile, hright]
  rfl

/-- A text has been written to the place `here`, to which the path leads.  Nothing else is different but
that directories in which the path lies were made where nothing was. -/
structure Wrote (before after : FileTree) (path text : Text) (here : Location) : Prop where
  leads : after.LeadsTo path here
  holds : after.get? here = some (.file (.text text))
  read : after.allows .read here = true → after.read path = .ok text
  frame : ∀ there ≠ here, after.get? there = before.get? there ∨
    before.get? there = none ∧ after.get? there = some .directory ∧
      ∃ directory ∈ Path.directories path, after.LeadsTo directory there
  working : after.working = before.working
  allows : after.allows = before.allows

theorem wrote_of_write {tree made after : FileTree} {path text : Text}
    (hmade : tree.Made made (Path.directories path)) (h : made.write path text = .ok after) :
    ∃ here, tree.Wrote after path text here := by
  obtain ⟨here, hne, hnode, rfl, hleads⟩ := write_cases h
  have hkeep := keepsDirectories_insert (.file (.text text)) hne hnode
  have hfile : (made.insert here (.file (.text text))).get? here = some (.file (.text text)) := by
    rw [get?_insert made here _ hne, if_pos rfl]
  refine ⟨here, hleads, hfile, read_of_leadsTo hleads hfile, ?_, hmade.keeps.working, hmade.keeps.allows⟩
  intro there hthere
  rw [get?_insert made there _ hne, if_neg hthere]
  rcases hmade.frame there with hsame | ⟨hnone, hdir, directory, hmem, hpath⟩
  · exact Or.inl hsame
  · exact Or.inr ⟨hnone, hdir, directory, hmem, hpath.of_keepsDirectories hkeep⟩

/-- The tree with a text written to a file, after making the directories in which it lies. -/
def stored (tree : FileTree) (path text : Text) : Except IoError FileTree :=
  match tree.makeParents path with
  | (_, .error error) => .error error
  | (made, .ok ()) => made.write path text

theorem wrote_of_stored {tree after : FileTree} {path text : Text}
    (h : tree.stored path text = .ok after) : ∃ here, tree.Wrote after path text here := by
  have hmade := made_of_makeDirectories tree (Path.directories path)
  unfold stored makeParents at h
  split at h
  · cases h
  · rename_i made heq
    rw [heq] at hmade
    exact wrote_of_write hmade h

end FileTree

end StubCompiler
