import DeclSplit.Proofs.Files.Ways
import DeclSplit.Proofs.Path.Components

/-! What the operations leave of a tree: a write puts one file in its place, and making directories adds
directories where nothing stood. -/

namespace DeclSplit.FileTree

variable {tree later : FileTree} {path : Path} {location other : Location} {contents : Contents}
  {entry : Entry}

lemma Spot.ne_nil (h : tree.Spot location) : location ≠ [] := by
  obtain ⟨dir, name, rfl, _⟩ := h
  simp

lemma find?_put_eq (hl : location ≠ []) (entry : Entry) (other : Location) :
    (tree.put location entry).find? other = if other = location then some entry else tree.find? other := by
  by_cases ho : other = location
  · rw [if_pos ho, ho, find?_put tree hl]
  · rw [if_neg ho, find?_put_of_ne tree ho]

lemma mem_of_lookup {entries : List (Location × Entry)}
    (h : lookup location entries = some entry) : (location, entry) ∈ entries := by
  induction entries with
  | nil => cases h
  | cons first entries ih =>
    obtain ⟨other, old⟩ := first
    rw [lookup] at h
    split at h
    · rename_i ho
      cases h
      rw [ho]
      exact List.mem_cons_self
    · exact List.mem_cons_of_mem _ (ih h)

lemma mem_entries {dir : Location} {name : OsText} (h : tree.find? (dir ++ [name]) = some entry) :
    (dir ++ [name], entry) ∈ tree.entries := by
  apply mem_of_lookup
  cases dir <;> exact h

lemma writable_ok_iff : tree.writable path = .ok location ↔
    tree.resolve path true = .ok location ∧ tree.find? location ≠ some .directory := by
  rw [writable]
  cases tree.resolve path true with
  | error e => simp [bind, Except.bind]
  | ok found =>
    simp only [bind, Except.bind, Except.ok.injEq]
    split
    · rename_i hd
      constructor
      · intro h
        cases h
      · rintro ⟨rfl, h⟩
        exact absurd hd h
    · rename_i hd
      constructor
      · intro h
        cases h
        exact ⟨rfl, hd⟩
      · rintro ⟨rfl, _⟩
        rfl

lemma spot_of_writable (h : tree.writable path = .ok location) : tree.Spot location := by
  obtain ⟨hr, hd⟩ := writable_ok_iff.mp h
  rcases resolve_ends hr with hw | hs
  · exact absurd hw.directory hd
  · exact hs

lemma write_ok_iff : tree.write path contents = .ok later ↔
    ∃ location, tree.writable path = .ok location ∧ later = tree.put location (.file contents) := by
  rw [write]
  cases tree.writable path with
  | error e => simp [bind, Except.bind]
  | ok location => simp [bind, Except.bind, pure, Except.pure, eq_comm]

lemma keepsWays_put_file (hs : tree.Spot location) (contents : Contents) :
    tree.KeepsWays (tree.put location (.file contents)) := by
  obtain ⟨_, _, _, _, he⟩ := id hs
  constructor
  · intro other hd
    rw [find?_put_eq hs.ne_nil]
    split
    · rename_i ho
      subst ho
      rcases he with he | ⟨_, he⟩ <;> rw [he] at hd <;> cases hd
    · exact hd
  · intro other target
    rw [find?_put_eq hs.ne_nil]
    split
    · rename_i ho
      subst ho
      rcases he with he | ⟨_, he⟩ <;> simp [he]
    · rfl

lemma put_file_keepsWays (hs : tree.Spot location) (contents : Contents) :
    (tree.put location (.file contents)).KeepsWays tree := by
  constructor
  · intro other hd
    rw [find?_put_eq hs.ne_nil] at hd
    split at hd
    · cases hd
    · exact hd
  · exact (keepsWays_put_file hs contents).link.symm

lemma writable_put_file (hs : tree.Spot location) (contents : Contents) :
    (tree.put location (.file contents)).writable path = .ok other ↔ tree.writable path = .ok other := by
  have hf := keepsWays_put_file hs contents
  have hb := put_file_keepsWays hs contents
  rw [writable_ok_iff, writable_ok_iff]
  constructor
  · rintro ⟨hr, hd⟩
    exact ⟨resolve_keep hb id hr, fun h => hd (hf.directory h)⟩
  · rintro ⟨hr, hd⟩
    exact ⟨resolve_keep hf id hr, fun h => hd (hb.directory h)⟩

lemma resolveParent_ok_iff {dir : Location} {last : Option OsText} : tree.resolveParent path = .ok (dir, last) ↔
    checkPath path = .ok () ∧ Leads tree false mostLinks (origin path []) (path.names.dropLast ++ [here]) dir ∧
      path.names.getLast?.filter (fun name => name ≠ here && name ≠ above) = last := by
  rw [resolveParent, ← follow_ok_iff]
  cases checkPath path with
  | error e => simp [bind, Except.bind]
  | ok u =>
    simp only [bind, Except.bind, pure, Except.pure, true_and]
    rw [← Path.names]
    cases tree.follow false mostLinks (origin path []) (path.names.dropLast ++ [here]) with
    | error e => simp
    | ok found => simp

lemma walkable_of_resolveParent {dir : Location} {last : Option OsText}
    (h : tree.resolveParent path = .ok (dir, last)) : tree.Walkable dir :=
  (resolveParent_ok_iff.mp h).2.1.ends_at_here (walkable_origin (walkable_root tree) path) (by simp)

lemma vacant_parent (h : tree.vacant path = .ok location) : ∃ dir name,
    tree.resolveParent path = .ok (dir, some name) ∧ name.byteLength ≤ longestName ∧
      location = dir ++ [name] ∧ tree.find? location = none := by
  rw [vacant] at h
  cases hp : tree.resolveParent path with
  | error e => simp [hp, bind, Except.bind] at h
  | ok found =>
    obtain ⟨dir, name⟩ := found
    cases name with
    | none => simp [hp, bind, Except.bind] at h
    | some name =>
      simp only [hp, bind, Except.bind] at h
      split at h
      · cases h
      · rename_i hshort
        split at h
        · cases h
        · rename_i hfree
          cases h
          exact ⟨dir, name, rfl, Nat.not_lt.mp hshort, rfl, by simpa using hfree⟩

def Vacant (tree : FileTree) (location : Location) : Prop :=
  ∃ dir name, location = dir ++ [name] ∧ tree.Walkable dir ∧ tree.find? location = none

lemma vacant_ok (h : tree.vacant path = .ok location) : tree.Vacant location := by
  obtain ⟨dir, name, hp, -, hl, hn⟩ := vacant_parent h
  exact ⟨dir, name, hl, walkable_of_resolveParent hp, hn⟩

def AddsDirectories (tree later : FileTree) : Prop :=
  ∀ location, later.find? location = tree.find? location ∨
    (tree.find? location = none ∧ later.find? location = some .directory)

lemma AddsDirectories.refl (tree : FileTree) : tree.AddsDirectories tree := fun _ => .inl rfl

lemma AddsDirectories.trans {last : FileTree} (h : tree.AddsDirectories later)
    (h' : later.AddsDirectories last) : tree.AddsDirectories last := by
  intro location
  rcases h' location with hs' | ⟨hn', hd'⟩
  · rw [hs']
    exact h location
  · rcases h location with hs | ⟨hn, hd⟩
    · exact .inr ⟨hs ▸ hn', hd'⟩
    · exact .inr ⟨hn, hd'⟩

lemma AddsDirectories.keepsWays (h : tree.AddsDirectories later) : tree.KeepsWays later := by
  constructor
  · intro location hd
    rcases h location with hs | ⟨_, hd'⟩
    · rw [hs, hd]
    · exact hd'
  · intro location target
    rcases h location with hs | ⟨hn, hd'⟩
    · rw [hs]
    · simp [hn, hd']

lemma AddsDirectories.file_iff (h : tree.AddsDirectories later) :
    later.find? location = some (.file contents) ↔ tree.find? location = some (.file contents) := by
  rcases h location with hs | ⟨hn, hd⟩
  · rw [hs]
  · simp [hn, hd]

lemma AddsDirectories.free (h : tree.AddsDirectories later) (hn : later.find? location = none) :
    tree.find? location = none := by
  rcases h location with hs | ⟨ht, _⟩
  · rw [← hs, hn]
  · exact ht

lemma makeDirectory_ok_iff : tree.makeDirectory path = .ok later ↔
    ∃ location, tree.vacant path = .ok location ∧ later = tree.put location .directory := by
  rw [makeDirectory]
  cases tree.vacant path with
  | error e => simp [bind, Except.bind]
  | ok location => simp [bind, Except.bind, pure, Except.pure, eq_comm]

lemma makeDirectory_adds (h : tree.makeDirectory path = .ok later) : tree.AddsDirectories later := by
  obtain ⟨location, hv, rfl⟩ := makeDirectory_ok_iff.mp h
  obtain ⟨dir, name, rfl, _, hn⟩ := vacant_ok hv
  intro other
  rw [find?_put_eq (by simp)]
  split
  · rename_i ho
    exact .inr ⟨ho ▸ hn, rfl⟩
  · exact .inl rfl

lemma makeDirectoriesAlong_keep {P : FileTree → Prop} {paths : List Path}
    (step : ∀ path ∈ paths, ∀ tree later, P tree → tree.makeDirectory path = .ok later → P later)
    (h : P tree) : P (tree.makeDirectoriesAlong paths).2 := by
  induction paths with
  | nil => exact h
  | cons path above ih =>
    have hfirst := step path List.mem_cons_self
    have habove := ih fun other ho => step other (List.mem_cons_of_mem _ ho)
    rw [makeDirectoriesAlong]
    split
    · rename_i made hm
      exact hfirst _ _ h hm
    · split
      · rename_i e made hm
        rwa [hm] at habove
      · rename_i made hm
        rw [hm] at habove
        split
        · rename_i done hd
          exact hfirst _ _ habove hd
        · exact habove
    · exact h

lemma makeDirectoriesAlong_adds (tree : FileTree) (paths : List Path) :
    tree.AddsDirectories (tree.makeDirectoriesAlong paths).2 :=
  makeDirectoriesAlong_keep (fun _ _ _ _ h hm => h.trans (makeDirectory_adds hm)) (.refl tree)

lemma makeDirectories_adds (tree : FileTree) (path : Path) :
    tree.AddsDirectories (tree.makeDirectories path).2 :=
  makeDirectoriesAlong_adds tree (ancestors path)

def Rooted (tree : FileTree) : Prop :=
  ∀ dir name, (tree.find? (dir ++ [name])).isSome → tree.find? dir = some .directory

lemma Rooted.free {dir : Location} (hr : tree.Rooted) (hn : tree.find? dir = none) (name : OsText) :
    tree.find? (dir ++ [name]) = none := by
  by_contra h
  have hd := hr dir name (Option.isSome_iff_ne_none.mpr h)
  rw [hn] at hd
  cases hd

lemma rooted_of_entries (h : ∀ e ∈ tree.entries, tree.find? e.1.dropLast = some .directory) : tree.Rooted := by
  intro dir name hs
  obtain ⟨entry, he⟩ := Option.isSome_iff_exists.mp hs
  simpa using h _ (mem_entries he)

lemma Rooted.put {dir : Location} {name : OsText} (hr : tree.Rooted) (hd : tree.find? dir = some .directory)
    (he : entry = .directory ∨ tree.find? (dir ++ [name]) ≠ some .directory) :
    (tree.put (dir ++ [name]) entry).Rooted := by
  intro upper other hs
  have hupper : tree.find? upper = some .directory := by
    rw [find?_put_eq (by simp)] at hs
    split at hs
    · rename_i h
      rwa [(List.append_inj' h rfl).1]
    · exact hr upper other hs
  rw [find?_put_eq (by simp)]
  split
  · rename_i h
    rcases he with rfl | he
    · rfl
    · exact absurd (h ▸ hupper) he
  · exact hupper

lemma Rooted.write (hr : tree.Rooted) (h : tree.write path contents = .ok later) : later.Rooted := by
  obtain ⟨location, hw, rfl⟩ := write_ok_iff.mp h
  obtain ⟨dir, name, rfl, hd, _⟩ := spot_of_writable hw
  exact hr.put hd.directory (.inr (writable_ok_iff.mp hw).2)

lemma Rooted.makeDirectory (hr : tree.Rooted) (h : tree.makeDirectory path = .ok later) : later.Rooted := by
  obtain ⟨location, hv, rfl⟩ := makeDirectory_ok_iff.mp h
  obtain ⟨dir, name, rfl, hd, _⟩ := vacant_ok hv
  exact hr.put hd.directory (.inl rfl)

def Distinct (tree : FileTree) : Prop := (tree.entries.map Prod.fst).Nodup

instance (tree : FileTree) : Decidable tree.Distinct := inferInstanceAs (Decidable (List.Nodup _))

lemma map_fst_replace (location : Location) (entry : Entry) (entries : List (Location × Entry)) :
    (replace location entry entries).map Prod.fst =
      if location ∈ entries.map Prod.fst then entries.map Prod.fst else entries.map Prod.fst ++ [location] := by
  induction entries with
  | nil => rfl
  | cons first entries ih =>
    obtain ⟨other, old⟩ := first
    rw [replace]
    by_cases ho : other = location
    · simp [ho]
    · rw [if_neg ho, List.map_cons, ih]
      split <;> simp_all [Ne.symm ho]

lemma Distinct.put (h : tree.Distinct) (location : Location) (entry : Entry) :
    (tree.put location entry).Distinct := by
  rw [Distinct, FileTree.put, map_fst_replace]
  split
  · exact h
  · rename_i hn
    refine List.nodup_append.mpr ⟨h, List.pairwise_singleton _ _, ?_⟩
    intro other ho last hl
    rw [List.mem_singleton.mp hl]
    rintro rfl
    exact hn ho

lemma Distinct.write (h : tree.Distinct) (hw : tree.write path contents = .ok later) : later.Distinct := by
  obtain ⟨location, -, rfl⟩ := write_ok_iff.mp hw
  exact h.put _ _

lemma Distinct.makeDirectory (h : tree.Distinct) (hm : tree.makeDirectory path = .ok later) : later.Distinct := by
  obtain ⟨location, -, rfl⟩ := makeDirectory_ok_iff.mp hm
  exact h.put _ _

lemma Distinct.lookup {entries : List (Location × Entry)} (h : (entries.map Prod.fst).Nodup)
    (hm : (location, entry) ∈ entries) : lookup location entries = some entry := by
  induction entries with
  | nil => cases hm
  | cons first entries ih =>
    obtain ⟨other, old⟩ := first
    rw [List.map_cons, List.nodup_cons] at h
    rw [FileTree.lookup]
    rcases List.mem_cons.mp hm with he | hm
    · cases he
      rw [if_pos rfl]
    · have hne : other ≠ location := by
        rintro rfl
        exact h.1 (List.mem_map.mpr ⟨_, hm, rfl⟩)
      rw [if_neg hne, ih h.2 hm]

lemma Distinct.find? {dir : Location} {name : OsText} (h : tree.Distinct)
    (hm : (dir ++ [name], entry) ∈ tree.entries) : tree.find? (dir ++ [name]) = some entry := by
  have hl := Distinct.lookup h hm
  cases dir <;> exact hl

end DeclSplit.FileTree
