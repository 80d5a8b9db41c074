import DeclSplit.Proofs.Files.Changes
import DeclSplit.Proofs.Path.Components
import Mathlib.Data.List.Induction

/-! Directories on a path: the way to a place leads through its directory, and a directory that had to be made
is a new one. -/

namespace DeclSplit.FileTree

open DeclSplit.Path (counts counts_iff)

variable {tree made : FileTree} {w : Bool} {links : ℕ} {dir location upper : Location} {path : Path}
  {name : OsText} {names rest : List OsText}

lemma Leads.unique {other : Location} (h : Leads tree w links dir names location)
    (h' : Leads tree w links dir names other) : location = other :=
  Except.ok.inj ((follow_of_leads h).symm.trans (follow_of_leads h'))

lemma Leads.toRead (h : Leads tree w links dir names location) : Leads tree false links dir names location :=
  h.keep (.refl tree) Bool.noConfusion

lemma Proper.counts (h : Proper name) : counts name = true :=
  counts_iff.mpr ⟨h.nonempty, h.ne_here⟩

lemma front_of_cons {front : List OsText} (h : front ++ rest = name :: names) (hk : counts name = true) :
    ∃ front' rest', names = front' ++ rest' ∧
      front ++ rest.filter counts = name :: (front' ++ rest'.filter counts) := by
  cases front with
  | nil =>
    obtain rfl : rest = name :: names := h
    exact ⟨[], names, rfl, by rw [List.filter_cons_of_pos hk]; rfl⟩
  | cons other front =>
    obtain ⟨rfl, rfl⟩ := List.cons.inj h
    exact ⟨front, rest, rfl, rfl⟩

lemma Leads.skip (front : List OsText) (h : Leads tree false links dir (front ++ names) location) :
    Leads tree false links dir (front ++ names.filter counts) location := by
  -- Following a link puts the names of its target in front of the others, where nothing is left out.
  generalize ha : front ++ names = all at h
  induction h generalizing front names with
  | stop =>
    obtain ⟨rfl, rfl⟩ := List.append_eq_nil_iff.mp ha
    exact .stop
  | @stay _ _ other _ _ hs _ ih =>
    cases front with
    | nil =>
      obtain rfl : names = _ := ha
      have hk : ¬ counts other = true := by
        rcases hs with rfl | rfl <;> decide
      rw [List.filter_cons_of_neg hk]
      exact ih _ rfl
    | cons _ front =>
      obtain ⟨rfl, rfl⟩ := List.cons.inj ha
      exact .stay hs (ih _ rfl)
  | up _ ih =>
    obtain ⟨front', rest', rfl, he⟩ := front_of_cons ha (by decide)
    rw [he]
    exact .up (ih _ rfl)
  | down hp _ hd _ ih =>
    obtain ⟨front', rest', rfl, he⟩ := front_of_cons ha hp.counts
    rw [he]
    exact .down hp Bool.noConfusion hd (ih _ rfl)
  | arrive hp hf =>
    obtain ⟨front', rest', hn, he⟩ := front_of_cons ha hp.counts
    obtain ⟨rfl, rfl⟩ := List.append_eq_nil_iff.mp hn.symm
    rw [he]
    exact .arrive hp hf
  | @link _ _ _ _ target _ hp _ hl _ ih =>
    obtain ⟨front', rest', rfl, he⟩ := front_of_cons ha hp.counts
    rw [he]
    refine .link hp Bool.noConfusion hl ?_
    rw [← List.append_assoc]
    exact ih _ (List.append_assoc _ _ _)

lemma origin_root (path : Path) : origin path [] = [] := by simp [origin]

lemma filter_steps (path : Path) : (steps path).filter counts = path.components := by
  rw [steps, ← Path.names, ← Path.filter_names]
  split
  · rw [List.filter_append, List.filter_cons_of_neg (by decide), List.filter_nil, List.append_nil]
  · rfl

lemma leads_components (h : tree.resolve path w = .ok location) :
    Leads tree false mostLinks [] path.components location := by
  have hl := (resolve_ok_iff.mp h).2.toRead
  rw [origin_root] at hl
  rw [← filter_steps]
  exact hl.skip []

lemma leads_dots {dots : List OsText} (hd : ∀ dot ∈ dots, dot = here) : Leads tree w links dir dots dir := by
  induction dots with
  | nil => exact .stop
  | cons dot dots ih =>
    exact .stay (.inl (hd dot List.mem_cons_self)) (ih fun other ho => hd other (List.mem_cons_of_mem _ ho))

lemma Leads.split_last (h : Leads tree w links dir (names ++ [name]) location) (dots : List OsText)
    (hk : counts name = true) (ha : name ≠ above) (hd : ∀ dot ∈ dots, dot = here) :
    ∃ upper, Leads tree false links dir (names ++ dots) upper ∧
      (location = upper ++ [name] ∨ ∃ target, tree.find? (upper ++ [name]) = some (.link target)) := by
  generalize hn : names ++ [name] = all at h
  induction h generalizing names with
  | stop => simp at hn
  | @stay _ _ other _ _ hs _ ih =>
    cases names with
    | nil =>
      cases hn
      rcases hs with rfl | rfl <;> cases hk
    | cons _ names =>
      obtain ⟨rfl, rfl⟩ := List.cons.inj hn
      obtain ⟨upper, hu, he⟩ := ih rfl
      exact ⟨upper, .stay hs hu, he⟩
  | up _ ih =>
    cases names with
    | nil =>
      cases hn
      exact absurd rfl ha
    | cons _ names =>
      obtain ⟨rfl, rfl⟩ := List.cons.inj hn
      obtain ⟨upper, hu, he⟩ := ih rfl
      exact ⟨upper, .up hu, he⟩
  | @down _ dir _ _ _ hp _ hf hl ih =>
    cases names with
    | nil =>
      cases hn
      cases hl
      exact ⟨dir, leads_dots hd, .inl rfl⟩
    | cons _ names =>
      obtain ⟨rfl, rfl⟩ := List.cons.inj hn
      obtain ⟨upper, hu, he⟩ := ih rfl
      exact ⟨upper, .down hp Bool.noConfusion hf hu, he⟩
  | @arrive _ dir _ hp _ =>
    cases names with
    | nil =>
      cases hn
      exact ⟨dir, leads_dots hd, .inl rfl⟩
    | cons _ names => simp at hn
  | @link _ dir _ _ target _ hp _ hf hl ih =>
    cases names with
    | nil =>
      cases hn
      exact ⟨dir, leads_dots hd, .inr ⟨target, hf⟩⟩
    | cons _ names =>
      obtain ⟨rfl, rfl⟩ := List.cons.inj hn
      obtain ⟨upper, hu, he⟩ := ih (List.append_assoc _ _ _)
      exact ⟨upper, .link hp Bool.noConfusion hf (by rwa [List.append_assoc] at hu), he⟩

lemma Leads.front (h : Leads tree w links dir (names ++ rest) location) (hr : rest ≠ []) :
    ∃ upper, Leads tree false links dir (names ++ [here]) upper := by
  generalize hn : names ++ rest = all at h
  induction h generalizing names rest with
  | stop => exact absurd (List.append_eq_nil_iff.mp hn).2 hr
  | @stay _ dir _ _ _ hs _ ih =>
    cases names with
    | nil => exact ⟨dir, .stay (.inl rfl) .stop⟩
    | cons _ names =>
      obtain ⟨rfl, rfl⟩ := List.cons.inj hn
      obtain ⟨upper, hu⟩ := ih hr rfl
      exact ⟨upper, .stay hs hu⟩
  | @up _ dir _ _ _ ih =>
    cases names with
    | nil => exact ⟨dir, .stay (.inl rfl) .stop⟩
    | cons _ names =>
      obtain ⟨rfl, rfl⟩ := List.cons.inj hn
      obtain ⟨upper, hu⟩ := ih hr rfl
      exact ⟨upper, .up hu⟩
  | @down _ dir _ _ _ hp _ hf _ ih =>
    cases names with
    | nil => exact ⟨dir, .stay (.inl rfl) .stop⟩
    | cons _ names =>
      obtain ⟨rfl, rfl⟩ := List.cons.inj hn
      obtain ⟨upper, hu⟩ := ih hr rfl
      exact ⟨upper, .down hp Bool.noConfusion hf hu⟩
  | @arrive _ dir _ _ _ =>
    cases names with
    | nil => exact ⟨dir, .stay (.inl rfl) .stop⟩
    | cons _ names =>
      obtain ⟨-, hn⟩ := List.cons.inj hn
      exact absurd (List.append_eq_nil_iff.mp hn).2 hr
  | @link _ dir _ _ target _ hp _ hf _ ih =>
    cases names with
    | nil => exact ⟨dir, .stay (.inl rfl) .stop⟩
    | cons _ names =>
      obtain ⟨rfl, rfl⟩ := List.cons.inj hn
      obtain ⟨upper, hu⟩ := ih hr (List.append_assoc _ _ _)
      exact ⟨upper, .link hp Bool.noConfusion hf (by rwa [List.append_assoc] at hu)⟩

lemma writable_join {dir : Path} (hk : counts name = true) (hs : OsChar.slash ∉ name) (ha : name ≠ above)
    (h : tree.writable (dir.join name) = .ok location) :
    ∃ upper, Leads tree false mostLinks [] dir.components upper ∧
      (location = upper ++ [name] ∨ ∃ target, tree.find? (upper ++ [name]) = some (.link target)) := by
  have hl := leads_components (writable_ok_iff.mp h).1
  rw [Path.components_join hk hs] at hl
  simpa using hl.split_last [] hk ha (by simp)

lemma resolveParent_some (h : tree.resolveParent path = .ok (upper, some name)) :
    ∃ init, path.components = init ++ [name] ∧ counts name = true ∧ name ≠ above ∧
      Leads tree false mostLinks [] init upper := by
  obtain ⟨-, hl, hlast⟩ := resolveParent_ok_iff.mp h
  obtain ⟨hg, hp⟩ := Option.filter_eq_some_iff.mp hlast
  simp only [Bool.and_eq_true, decide_eq_true_eq] at hp
  obtain ⟨init, hi⟩ := List.getLast?_eq_some_iff.mp hg
  have hne : name ≠ [] := by
    have hm : name ∈ path.names := List.mem_of_getLast? hg
    simpa using (List.mem_filter.mp hm).2
  have hk : counts name = true := counts_iff.mpr ⟨hne, hp.1⟩
  refine ⟨init.filter counts, ?_, hk, hp.2, ?_⟩
  · rw [← Path.filter_names, hi, List.filter_append, List.filter_cons_of_pos hk]
    rfl
  · rw [hi, List.dropLast_concat, origin_root] at hl
    have hs : Leads tree false mostLinks [] ([] ++ (init ++ [here]).filter counts) upper := hl.skip []
    rw [List.filter_append, List.filter_cons_of_neg (by decide), List.filter_nil, List.append_nil] at hs
    exact hs

lemma vacant_components (h : tree.vacant path = .ok location) :
    ∃ init name upper, path.components = init ++ [name] ∧ counts name = true ∧ name ≠ above ∧
      Leads tree false mostLinks [] init upper ∧ location = upper ++ [name] ∧ tree.find? location = none := by
  obtain ⟨upper, name, hp, -, hl, hn⟩ := vacant_parent h
  obtain ⟨init, hc, hk, ha, hu⟩ := resolveParent_some hp
  exact ⟨init, name, upper, hc, hk, ha, hu, hl, hn⟩

lemma makeDirectory_new (h : tree.makeDirectory path = .ok made)
    (hl : Leads made false mostLinks [] path.components location) : tree.find? location = none := by
  have hadds := makeDirectory_adds h
  obtain ⟨place, hv, rfl⟩ := makeDirectory_ok_iff.mp h
  obtain ⟨init, name, upper, hc, hk, ha, hu, rfl, hn⟩ := vacant_components hv
  rw [hc] at hl
  obtain ⟨upper', hu', he⟩ := hl.split_last [] hk ha (by simp)
  rw [List.append_nil] at hu'
  obtain rfl := (hu.keep hadds.keepsWays Bool.noConfusion).unique hu'
  rcases he with rfl | ⟨target, ht⟩
  · exact hn
  · rw [find?_put tree (by simp)] at ht
    cases ht

lemma isDirectory_iff : tree.isDirectory path = true ↔
    ∃ location, tree.resolve path = .ok location ∧ tree.find? location = some .directory := by
  rw [isDirectory, entryAt]
  cases tree.resolve path with
  | error e => simp [bind, Except.bind]
  | ok location =>
    simp only [bind, Except.bind, Except.ok.injEq, exists_eq_left']
    rcases hf : tree.find? location with _ | ⟨_ | _ | _⟩ <;>
      simp [pure, Except.pure, throw, throwThe, MonadExceptOf.throw]

lemma leads_names (h : tree.resolve path w = .ok location) :
    Leads tree false mostLinks [] path.names location := by
  have hl := (resolve_ok_iff.mp h).2.toRead
  rw [origin_root, steps, ← Path.names] at hl
  split at hl
  · simpa [counts] using hl.skip path.names
  · exact hl

lemma resolveParent_of_resolve (h : tree.resolve path w = .ok location) : ∃ upper,
    Leads tree false mostLinks [] (path.names.dropLast ++ [here]) upper ∧
      tree.resolveParent path =
        .ok (upper, path.names.getLast?.filter fun name => name ≠ here && name ≠ above) := by
  obtain ⟨upper, hu⟩ : ∃ upper, Leads tree false mostLinks [] (path.names.dropLast ++ [here]) upper := by
    have hl := leads_names h
    rcases List.eq_nil_or_concat path.names with hn | ⟨init, name, hn⟩
    · rw [hn]
      exact ⟨[], .stay (.inl rfl) .stop⟩
    · rw [hn, List.concat_eq_append] at hl
      rw [hn, List.concat_eq_append, List.dropLast_concat]
      exact hl.front (List.cons_ne_nil _ _)
  refine ⟨upper, hu, resolveParent_ok_iff.mpr ⟨(resolve_ok_iff.mp h).1, ?_, rfl⟩⟩
  rwa [origin_root]

def isLink (tree : FileTree) (path : Path) : Bool :=
  match tree.resolveParent path with
  | .ok (upper, some name) =>
    match tree.find? (upper ++ [name]) with
    | some (.link _) => true
    | _ => false
  | _ => false

lemma writable_join_of_isLink {dir : Path} (hk : counts name = true) (hs : OsChar.slash ∉ name) (ha : name ≠ above)
    (h : tree.writable (dir.join name) = .ok location) (hl : tree.isLink (dir.join name) = false) :
    ∃ upper, Leads tree false mostLinks [] dir.components upper ∧ location = upper ++ [name] := by
  obtain ⟨upper, hu, hplace⟩ := writable_join hk hs ha h
  refine ⟨upper, hu, hplace.resolve_right ?_⟩
  rintro ⟨target, ht⟩
  obtain ⟨upper', -, hp⟩ := resolveParent_of_resolve (writable_ok_iff.mp h).1
  have hn : name ≠ here := by
    rintro rfl
    cases hk
  rw [Path.names_join hk hs, List.getLast?_concat, Option.filter_some, if_pos (by simp [hn, ha])] at hp
  obtain ⟨init, hc, -, -, hu'⟩ := resolveParent_some hp
  obtain ⟨rfl, -⟩ := List.append_inj' ((Path.components_join hk hs).symm.trans hc) rfl
  obtain rfl := hu.unique hu'
  simp [isLink, hp, ht] at hl

lemma makeDirectory_taken (hd : tree.isDirectory path = true) :
    ∃ e, tree.makeDirectory path = .error e ∧ e ≠ .missing := by
  obtain ⟨location, hr, hf⟩ := isDirectory_iff.mp hd
  obtain ⟨upper, hu, hp⟩ := resolveParent_of_resolve hr
  rw [makeDirectory, vacant, hp]
  cases hlast : path.names.getLast?.filter fun name => name ≠ here && name ≠ above with
  | none => exact ⟨.exists_, rfl, by simp⟩
  | some name =>
    obtain ⟨hg, hn⟩ := Option.filter_eq_some_iff.mp hlast
    simp only [Bool.and_eq_true, decide_eq_true_eq] at hn
    obtain ⟨init, hi⟩ := List.getLast?_eq_some_iff.mp hg
    have hne : name ≠ [] := by
      have hm : name ∈ path.names := List.mem_of_getLast? hg
      simpa using (List.mem_filter.mp hm).2
    have hl := leads_names hr
    rw [hi] at hl
    rw [hi, List.dropLast_concat] at hu
    obtain ⟨upper', hu', he⟩ := hl.split_last [here] (counts_iff.mpr ⟨hne, hn.1⟩) hn.2 (by simp)
    obtain rfl := hu'.unique hu
    have hthere : (tree.find? (upper' ++ [name])).isSome = true := by
      rcases he with rfl | ⟨target, ht⟩
      · simp [hf]
      · simp [ht]
    by_cases hshort : longestName < name.byteLength
    · exact ⟨.nameTooLong, by simp [bind, Except.bind, hshort, throw, throwThe, MonadExceptOf.throw], by simp⟩
    · exact ⟨.exists_, by simp [bind, Except.bind, hshort, hthere, throw, throwThe, MonadExceptOf.throw], by simp⟩

lemma makeDirectoriesAlong_ok {paths : List Path}
    (h : tree.makeDirectoriesAlong (path :: paths) = (.ok (), made)) :
    tree.makeDirectory path = .ok made ∨ (tree.isDirectory path = true ∧ made = tree) ∨
      (tree.makeDirectory path = .error .missing ∧
        ∃ between, tree.makeDirectoriesAlong paths = (.ok (), between) ∧
          (between.makeDirectory path = .ok made ∨ (between.isDirectory path = true ∧ made = between))) := by
  rw [makeDirectoriesAlong] at h
  split at h
  · rename_i made' hm
    cases h
    exact .inl hm
  · rename_i hm
    split at h
    · cases h
    · rename_i between hb
      refine .inr (.inr ⟨hm, between, hb, ?_⟩)
      split at h
      · rename_i done hd
        cases h
        exact .inl hd
      · split at h
        · rename_i hd
          cases h
          exact .inr ⟨hd, rfl⟩
        · cases h
  · split at h
    · rename_i hd
      cases h
      exact .inr (.inl ⟨hd, rfl⟩)
    · cases h

def WasOrNew (tree made : FileTree) (path : Path) : Prop :=
  tree.isDirectory path = true ∨
    ∀ location, Leads made false mostLinks [] path.components location → tree.find? location = none

lemma wasOrNew_of_makeDirectory (h : tree.makeDirectory path = .ok made) : tree.WasOrNew made path :=
  .inr fun _ hl => makeDirectory_new h hl

lemma makeDirectoriesAlong_alone (h : tree.makeDirectoriesAlong [path] = (.ok (), made)) :
    tree.WasOrNew made path := by
  rcases makeDirectoriesAlong_ok h with hm | ⟨hd, _⟩ | ⟨hm, between, hb, hlast⟩
  · exact wasOrNew_of_makeDirectory hm
  · exact .inl hd
  · cases hb
    rcases hlast with hlast | ⟨hd, _⟩
    · rw [hm] at hlast
      cases hlast
    · exact .inl hd

lemma makeDirectoriesAlong_taken (hd : tree.isDirectory path = true) (paths : List Path) :
    tree.makeDirectoriesAlong (path :: paths) = (.ok (), tree) := by
  obtain ⟨e, he, hm⟩ := makeDirectory_taken hd
  rw [makeDirectoriesAlong, he]
  cases e <;> simp_all

lemma makeDirectoriesAlong_new (hr : tree.Rooted) (ha : above ∉ path.components)
    (h : tree.makeDirectoriesAlong (path :: path.parents) = (.ok (), made)) : tree.WasOrNew made path := by
  -- The path of the parent has all components but the last, so the induction takes them off at the end.
  generalize hc : path.components = names at ha
  induction names using List.reverseRecOn generalizing path made with
  | nil =>
    have hp : path.parents = [] := by simp [Path.parents, hc]
    rw [hp] at h
    exact makeDirectoriesAlong_alone h
  | append_singleton init name ih =>
    by_cases hi : init = []
    · have hp : path.parents = [] := by simp [Path.parents, hc, hi]
      rw [hp] at h
      exact makeDirectoriesAlong_alone h
    have hclean := hc ▸ Path.clean_components path
    have hinit : Path.Clean init := fun other ho => hclean other (List.mem_append_left _ ho)
    have hup : above ∉ init := fun e => ha (List.mem_append_left _ e)
    rw [Path.parents_eq hc hi] at h
    rcases makeDirectoriesAlong_ok h with hm | ⟨hd, _⟩ | ⟨hm, between, hb, hlast⟩
    · exact wasOrNew_of_makeDirectory hm
    · exact .inl hd
    have hadds : tree.AddsDirectories between := by
      have hadds := makeDirectoriesAlong_adds tree
        (Path.ofComponents path.isAbsolute init :: (Path.ofComponents path.isAbsolute init).parents)
      rwa [hb] at hadds
    rcases ih hb (Path.components_ofComponents hinit hi) hup with hd | hnew
    · -- The parent was there, so it cannot have been what was missing.
      rw [makeDirectoriesAlong_taken hd] at hb
      cases hb
      rcases hlast with hlast | ⟨hd, _⟩
      · rw [hm] at hlast
        cases hlast
      · exact .inl hd
    right
    intro location hl
    rcases hlast with hlast | ⟨_, rfl⟩
    · exact hadds.free (makeDirectory_new hlast hl)
    · rw [Path.components_ofComponents hinit hi] at hnew
      rw [hc] at hl
      obtain ⟨hk, -⟩ := hclean name (List.mem_append_right _ List.mem_cons_self)
      have hname : name ≠ above := fun e => ha (List.mem_append_right _ (e ▸ List.mem_cons_self))
      obtain ⟨upper, hu, he⟩ := hl.split_last [] hk hname (by simp)
      have hfree := hr.free (hnew upper (by simpa using hu)) name
      rcases he with rfl | ⟨target, ht⟩
      · exact hfree
      · have hold := hadds.keepsWays.link.mp ht
        rw [hfree] at hold
        cases hold

lemma exists_of_isDirectory (h : tree.isDirectory path = true) : tree.exists_ path = true := by
  obtain ⟨location, hr, hf⟩ := isDirectory_iff.mp h
  simp [exists_, entryAt, hr, hf, bind, Except.bind, pure, Except.pure, Except.isOk, Except.toBool]

lemma resolve_of_exists (h : tree.exists_ path = true) : ∃ location, tree.resolve path = .ok location := by
  cases hr : tree.resolve path with
  | error e => simp [exists_, entryAt, hr, bind, Except.bind, Except.isOk, Except.toBool] at h
  | ok location => exact ⟨location, rfl⟩

theorem makeDirectories_new (hr : tree.Rooted) (hm : tree.makeDirectories path = (.ok (), made))
    (hx : tree.exists_ path = false) (hn : path.os ≠ []) (ha : above ∉ path.components)
    (hl : Leads made false mostLinks [] path.components location) : tree.find? location = none := by
  have hp : ancestors path = path :: path.parents := by simp [ancestors, hn]
  rw [makeDirectories, hp] at hm
  rcases makeDirectoriesAlong_new hr ha hm with hd | hnew
  · rw [exists_of_isDirectory hd] at hx
    cases hx
  · exact hnew location hl

end DeclSplit.FileTree
