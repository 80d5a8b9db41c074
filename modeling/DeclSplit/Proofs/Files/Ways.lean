import DeclSplit.Files.Operations
import Mathlib.Data.List.Basic

/-! Ways through a file tree, as derivations: where following names may lead, and what a change of the tree
leaves of it. -/

namespace DeclSplit.FileTree

structure Proper (name : OsText) : Prop where
  nonempty : name ≠ []
  ne_here : name ≠ here
  ne_above : name ≠ above
  short : name.byteLength ≤ longestName

/-- Following `names` from `dir` leads to `location`, through at most `links` links. -/
inductive Leads (tree : FileTree) (toWrite : Bool) : ℕ → Location → List OsText → Location → Prop
  | stop {links dir} : Leads tree toWrite links dir [] dir
  | stay {links dir name rest location} : name = here ∨ name = [] →
      Leads tree toWrite links dir rest location → Leads tree toWrite links dir (name :: rest) location
  | up {links dir rest location} : Leads tree toWrite links dir.dropLast rest location →
      Leads tree toWrite links dir (above :: rest) location
  | down {links dir name rest location} : Proper name → (toWrite = true → rest ≠ [[]]) →
      tree.find? (dir ++ [name]) = some .directory →
      Leads tree toWrite links (dir ++ [name]) rest location →
      Leads tree toWrite links dir (name :: rest) location
  | arrive {links dir name} : Proper name →
      tree.find? (dir ++ [name]) = none ∨ (∃ contents, tree.find? (dir ++ [name]) = some (.file contents)) →
      Leads tree toWrite links dir [name] (dir ++ [name])
  | link {links dir name rest target location} : Proper name → (toWrite = true → rest ≠ [[]]) →
      tree.find? (dir ++ [name]) = some (.link target) →
      Leads tree toWrite links (origin target dir) (steps target ++ rest) location →
      Leads tree toWrite (links + 1) dir (name :: rest) location

variable {tree later : FileTree} {w : Bool} {links : ℕ} {dir location : Location} {name : OsText}
  {names rest : List OsText}

lemma walk_stay {f : Location → List OsText → Except FileError Location} (h : name = here ∨ name = []) :
    tree.walk w f dir (name :: rest) = tree.walk w f dir rest := by
  rw [walk, if_pos]
  simpa using h

lemma walk_up {f : Location → List OsText → Except FileError Location} :
    tree.walk w f dir (above :: rest) = tree.walk w f dir.dropLast rest := by
  rw [walk, if_neg (by decide), if_pos rfl]

lemma walk_proper {f : Location → List OsText → Except FileError Location} (hn : Proper name)
    (hw : w = true → rest ≠ [[]]) : tree.walk w f dir (name :: rest) =
      match tree.find? (dir ++ [name]) with
      | none => if rest.isEmpty then .ok (dir ++ [name]) else .error .missing
      | some .directory => tree.walk w f (dir ++ [name]) rest
      | some (.file _) => if rest.isEmpty then .ok (dir ++ [name]) else .error .notDirectory
      | some (.link target) => f (origin target dir) (steps target ++ rest) := by
  have hs : ¬ (w && rest = [[]]) = true := by simpa using hw
  refine Eq.trans (by rw [walk, if_neg (by simp [hn.ne_here, hn.nonempty]), if_neg hn.ne_above,
    if_neg (by simpa using hs), if_neg (Nat.not_lt.mpr hn.short)]) ?_
  cases tree.find? (dir ++ [name]) with
  | none => rfl
  | some entry => cases entry <;> rfl

lemma proper_of_walk {f : Location → List OsText → Except FileError Location}
    (hn : ¬ (name = here ∨ name = [])) (ha : name ≠ above)
    (h : tree.walk w f dir (name :: rest) = .ok location) :
    Proper name ∧ (w = true → rest ≠ [[]]) := by
  rw [walk, if_neg (by simpa using hn), if_neg ha] at h
  split at h
  · cases h
  · rename_i hw
    split at h
    · cases h
    · rename_i hl
      exact ⟨⟨fun e => hn (.inr e), fun e => hn (.inl e), ha, Nat.not_lt.mp hl⟩, by simpa using hw⟩

lemma leads_of_walk {f : Location → List OsText → Except FileError Location}
    (hf : ∀ dir names location, f dir names = .ok location →
      ∃ fewer, links = fewer + 1 ∧ Leads tree w fewer dir names location)
    (h : tree.walk w f dir names = .ok location) : Leads tree w links dir names location := by
  induction names generalizing dir with
  | nil =>
    rw [walk] at h
    cases h
    exact .stop
  | cons name rest ih =>
    by_cases hn : name = here ∨ name = []
    · rw [walk_stay hn] at h
      exact .stay hn (ih h)
    by_cases ha : name = above
    · subst ha
      rw [walk_up] at h
      exact .up (ih h)
    obtain ⟨hp, hw⟩ := proper_of_walk hn ha h
    rw [walk_proper hp hw] at h
    split at h
    · rename_i hnone
      cases rest with
      | nil => cases h; exact .arrive hp (.inl hnone)
      | cons _ _ => simp at h
    · rename_i hdir
      exact .down hp hw hdir (ih h)
    · rename_i contents hfile
      cases rest with
      | nil => cases h; exact .arrive hp (.inr ⟨contents, hfile⟩)
      | cons _ _ => simp at h
    · rename_i target hlink
      obtain ⟨fewer, rfl, hl⟩ := hf _ _ _ h
      exact .link hp hw hlink hl

lemma leads_of_follow (h : tree.follow w links dir names = .ok location) :
    Leads tree w links dir names location := by
  induction links generalizing dir names location with
  | zero => exact leads_of_walk (fun _ _ _ hf => by cases hf) h
  | succ links ih => exact leads_of_walk (fun _ _ _ hf => ⟨links, rfl, ih hf⟩) h

lemma follow_nil : tree.follow w links dir [] = .ok dir := by
  cases links <;> rfl

lemma follow_stay (h : name = here ∨ name = []) :
    tree.follow w links dir (name :: rest) = tree.follow w links dir rest := by
  cases links <;> exact walk_stay h

lemma follow_up : tree.follow w links dir (above :: rest) = tree.follow w links dir.dropLast rest := by
  cases links <;> exact walk_up

lemma follow_down (hp : Proper name) (hw : w = true → rest ≠ [[]])
    (hd : tree.find? (dir ++ [name]) = some .directory) :
    tree.follow w links dir (name :: rest) = tree.follow w links (dir ++ [name]) rest := by
  cases links <;> rw [follow, walk_proper hp hw, hd]

lemma walk_arrive {f : Location → List OsText → Except FileError Location} (hp : Proper name)
    (he : tree.find? (dir ++ [name]) = none ∨ ∃ contents, tree.find? (dir ++ [name]) = some (.file contents)) :
    tree.walk w f dir [name] = .ok (dir ++ [name]) := by
  rw [walk_proper hp (by simp)]
  rcases he with he | ⟨contents, he⟩
  · rw [he]
    rfl
  · rw [he]
    rfl

lemma follow_arrive (hp : Proper name)
    (he : tree.find? (dir ++ [name]) = none ∨ ∃ contents, tree.find? (dir ++ [name]) = some (.file contents)) :
    tree.follow w links dir [name] = .ok (dir ++ [name]) := by
  cases links <;> exact walk_arrive hp he

lemma follow_of_leads (h : Leads tree w links dir names location) :
    tree.follow w links dir names = .ok location := by
  induction h with
  | stop => exact follow_nil
  | stay hn _ ih => rw [follow_stay hn, ih]
  | up _ ih => rw [follow_up, ih]
  | down hp hw hd _ ih => rw [follow_down hp hw hd, ih]
  | arrive hp he => exact follow_arrive hp he
  | link hp hw hl _ ih =>
    rw [follow, walk_proper hp hw, hl]
    exact ih

theorem follow_ok_iff : tree.follow w links dir names = .ok location ↔ Leads tree w links dir names location :=
  ⟨leads_of_follow, follow_of_leads⟩

theorem resolve_ok_iff {path : Path} : tree.resolve path w = .ok location ↔
    checkPath path = .ok () ∧ Leads tree w mostLinks (origin path []) (steps path) location := by
  rw [resolve]
  cases checkPath path with
  | error e => simp [bind, Except.bind]
  | ok u => simp [bind, Except.bind, follow_ok_iff]

structure KeepsWays (tree later : FileTree) : Prop where
  directory {location : Location} :
    tree.find? location = some .directory → later.find? location = some .directory
  link {location : Location} {target : Path} :
    later.find? location = some (.link target) ↔ tree.find? location = some (.link target)

lemma KeepsWays.refl (tree : FileTree) : tree.KeepsWays tree := ⟨id, Iff.rfl⟩

lemma KeepsWays.trans {last : FileTree} (h : tree.KeepsWays later) (h' : later.KeepsWays last) :
    tree.KeepsWays last :=
  ⟨fun hd => h'.directory (h.directory hd), h'.link.trans h.link⟩

lemma Leads.keep {v : Bool} (kept : tree.KeepsWays later) (hv : v = true → w = true)
    (h : Leads tree w links dir names location) : Leads later v links dir names location := by
  induction h with
  | stop => exact .stop
  | stay hn _ ih => exact .stay hn ih
  | up _ ih => exact .up ih
  | down hp hw hd _ ih => exact .down hp (fun h => hw (hv h)) (kept.directory hd) ih
  | @arrive links dir name hp he =>
    cases hl : later.find? (dir ++ [name]) with
    | none => exact .arrive hp (.inl hl)
    | some entry =>
      cases entry with
      | file contents => exact .arrive hp (.inr ⟨contents, hl⟩)
      | directory => exact .down hp (by simp) hl .stop
      | link target =>
        have ht := kept.link.mp hl
        rcases he with he | ⟨contents, he⟩ <;> rw [he] at ht <;> cases ht
  | link hp hw hl _ ih => exact .link hp (fun h => hw (hv h)) (kept.link.mpr hl) ih

lemma resolve_keep {path : Path} {v : Bool} (kept : tree.KeepsWays later) (hv : v = true → w = true)
    (h : tree.resolve path w = .ok location) : later.resolve path v = .ok location := by
  obtain ⟨hc, hl⟩ := resolve_ok_iff.mp h
  exact resolve_ok_iff.mpr ⟨hc, hl.keep kept hv⟩

def Walkable (tree : FileTree) (dir : Location) : Prop :=
  ∀ upper, upper <+: dir → tree.find? upper = some .directory

lemma walkable_root (tree : FileTree) : tree.Walkable [] := by
  intro upper h
  rw [List.prefix_nil.mp h]
  rfl

lemma Walkable.down (h : tree.Walkable dir) (hd : tree.find? (dir ++ [name]) = some .directory) :
    tree.Walkable (dir ++ [name]) := by
  intro upper hu
  rcases List.prefix_concat_iff.mp (by simpa using hu) with rfl | hu
  · simpa using hd
  · exact h upper hu

lemma Walkable.up (h : tree.Walkable dir) : tree.Walkable dir.dropLast :=
  fun upper hu => h upper (hu.trans (List.dropLast_prefix dir))

lemma Walkable.directory (h : tree.Walkable dir) : tree.find? dir = some .directory :=
  h dir (List.prefix_refl dir)

lemma walkable_origin (h : tree.Walkable dir) (path : Path) : tree.Walkable (origin path dir) := by
  rw [origin]
  split
  · exact walkable_root tree
  · exact h

/-- A name that is free or stands for a file, in a directory that can be walked to. -/
def Spot (tree : FileTree) (location : Location) : Prop :=
  ∃ dir name, location = dir ++ [name] ∧ tree.Walkable dir ∧
    (tree.find? location = none ∨ ∃ contents, tree.find? location = some (.file contents))

lemma Leads.ends (h : Leads tree w links dir names location) (hd : tree.Walkable dir) :
    tree.Walkable location ∨ tree.Spot location := by
  induction h with
  | stop => exact .inl hd
  | stay _ _ ih => exact ih hd
  | up _ ih => exact ih hd.up
  | down _ _ he _ ih => exact ih (hd.down he)
  | arrive _ he => exact .inr ⟨_, _, rfl, hd, he⟩
  | link _ _ _ _ ih => exact ih (walkable_origin hd _)

lemma resolve_ends {path : Path} (h : tree.resolve path w = .ok location) :
    tree.Walkable location ∨ tree.Spot location :=
  (resolve_ok_iff.mp h).2.ends (walkable_origin (walkable_root tree) path)

lemma Leads.ends_at_here (h : Leads tree w links dir names location) (hd : tree.Walkable dir)
    (hn : names.getLast? = some here) : tree.Walkable location := by
  induction h with
  | stop => exact hd
  | @stay _ _ _ rest _ _ _ ih =>
    cases rest with
    | nil => rename_i h; cases h; exact hd
    | cons _ _ => exact ih hd (by simpa using hn)
  | @up _ _ rest _ _ ih =>
    cases rest with
    | nil => exact absurd (Option.some.inj hn) (by decide)
    | cons _ _ => exact ih hd.up (by simpa using hn)
  | @down _ _ _ rest _ hp _ he _ ih =>
    cases rest with
    | nil => exact absurd (by simpa using hn) hp.ne_here
    | cons _ _ => exact ih (hd.down he) (by simpa using hn)
  | arrive hp _ => exact absurd (by simpa using hn) hp.ne_here
  | @link _ _ _ rest target _ hp _ _ _ ih =>
    cases rest with
    | nil => exact absurd (by simpa using hn) hp.ne_here
    | cons _ _ => exact ih (walkable_origin hd _) (by simpa [List.getLast?_append] using hn)

end DeclSplit.FileTree
