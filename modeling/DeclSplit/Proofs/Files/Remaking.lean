import DeclSplit.Proofs.Files.Directories

/-! Making directories again: what was made is there, and what could not be made cannot be made after all. -/

namespace DeclSplit.FileTree

open DeclSplit.Path (counts counts_iff)

variable {tree made later : FileTree} {links : ℕ} {dir location upper : Location} {path : Path}
  {name : OsText} {names rest : List OsText} {paths : List Path} {e : FileError}

lemma Leads.extend (h : Leads tree false links dir (names ++ [here]) upper)
    (hr : ∀ links, Leads tree false links upper rest location) :
    Leads tree false links dir (names ++ rest) location := by
  generalize hn : names ++ [here] = all at h
  induction h generalizing names with
  | stop => simp at hn
  | stay hs hl ih =>
    cases names with
    | nil =>
      cases hn
      cases hl
      exact hr _
    | cons _ names =>
      obtain ⟨rfl, rfl⟩ := List.cons.inj hn
      exact .stay hs (ih hr rfl)
  | up _ ih =>
    cases names with
    | nil => cases hn
    | cons _ names =>
      obtain ⟨rfl, rfl⟩ := List.cons.inj hn
      exact .up (ih hr rfl)
  | down hp _ hd _ ih =>
    cases names with
    | nil =>
      cases hn
      exact absurd rfl hp.ne_here
    | cons _ names =>
      obtain ⟨rfl, rfl⟩ := List.cons.inj hn
      exact .down hp Bool.noConfusion hd (ih hr rfl)
  | arrive hp _ =>
    cases names with
    | nil =>
      cases hn
      exact absurd rfl hp.ne_here
    | cons _ names => simp at hn
  | link hp _ hl _ ih =>
    cases names with
    | nil =>
      cases hn
      exact absurd rfl hp.ne_here
    | cons _ names =>
      obtain ⟨rfl, rfl⟩ := List.cons.inj hn
      refine .link hp Bool.noConfusion hl ?_
      have hl' := ih hr (List.append_assoc _ _ _)
      rwa [List.append_assoc] at hl'

lemma isDirectory_of_makeDirectory (h : tree.makeDirectory path = .ok made) : made.isDirectory path = true := by
  have hkept := (makeDirectory_adds h).keepsWays
  obtain ⟨location, hv, rfl⟩ := makeDirectory_ok_iff.mp h
  obtain ⟨dir, name, hp, hshort, rfl, -⟩ := vacant_parent hv
  obtain ⟨-, -, hk, ha, -⟩ := resolveParent_some hp
  obtain ⟨hc, hl, hlast⟩ := resolveParent_ok_iff.mp hp
  obtain ⟨init, hi⟩ := List.getLast?_eq_some_iff.mp (Option.filter_eq_some_iff.mp hlast).1
  have hproper : Proper name := by
    obtain ⟨hne, hhere⟩ := counts_iff.mp hk
    exact ⟨hne, hhere, ha, hshort⟩
  have hthere : (tree.put (dir ++ [name]) .directory).find? (dir ++ [name]) = some .directory :=
    find?_put tree (by simp) _
  rw [hi, List.dropLast_concat] at hl
  refine isDirectory_iff.mpr ⟨_, resolve_ok_iff.mpr ⟨hc, ?_⟩, hthere⟩
  rw [steps, ← Path.names, hi]
  split
  · rw [List.append_assoc]
    exact (hl.keep hkept Bool.noConfusion).extend fun _ =>
      .down hproper Bool.noConfusion hthere (.stay (.inr rfl) .stop)
  · exact (hl.keep hkept Bool.noConfusion).extend fun _ => .down hproper Bool.noConfusion hthere .stop

lemma isDirectory_of_makeDirectoriesAlong (h : tree.makeDirectoriesAlong (path :: paths) = (.ok (), made)) :
    made.isDirectory path = true := by
  rcases makeDirectoriesAlong_ok h with hm | ⟨hd, rfl⟩ | ⟨-, between, -, hm | ⟨hd, rfl⟩⟩
  · exact isDirectory_of_makeDirectory hm
  · exact hd
  · exact isDirectory_of_makeDirectory hm
  · exact hd

lemma isDirectory_of_makeDirectories (hm : tree.makeDirectories path = (.ok (), made)) (hn : path.os ≠ []) :
    made.isDirectory path = true := by
  rw [makeDirectories, ancestors, if_neg (by simpa using hn)] at hm
  exact isDirectory_of_makeDirectoriesAlong hm

lemma isDirectory_keep (kept : tree.KeepsWays later) (h : tree.isDirectory path = true) :
    later.isDirectory path = true := by
  obtain ⟨location, hr, hd⟩ := isDirectory_iff.mp h
  exact isDirectory_iff.mpr ⟨location, resolve_keep kept id hr, kept.directory hd⟩

theorem makeDirectories_again (hm : tree.makeDirectories path = (.ok (), made)) (kept : made.KeepsWays later) :
    later.makeDirectories path = (.ok (), later) := by
  rw [makeDirectories] at hm ⊢
  cases ha : ancestors path with
  | nil => rfl
  | cons first rest =>
    rw [ha] at hm
    exact makeDirectoriesAlong_taken (isDirectory_keep kept (isDirectory_of_makeDirectoriesAlong hm)) rest

lemma checkPath_ok_iff : checkPath path = .ok () ↔
    OsChar.char '\x00' ∉ path.os ∧ path.os ≠ [] ∧ path.os.byteLength ≤ longestPath := by
  rw [checkPath]
  split
  · rename_i h
    simp_all
  · split
    · rename_i h
      simp_all
    · split
      · rename_i h
        simp [Nat.not_le.mpr h]
      · rename_i hnul hempty hlong
        simp_all

lemma steps_ofComponents {absolute : Bool} (hc : Path.Clean names) (hn : names ≠ []) :
    steps (Path.ofComponents absolute names) = names := by
  rw [steps, ← Path.names, Path.names_ofComponents hc hn]
  split
  · rename_i hslash
    obtain ⟨front, hf⟩ := List.getLast?_eq_some_iff.mp hslash
    have hp : Text.pieces .slash (Path.ofComponents absolute names).os = _ := Path.pieces_ofComponents hc hn
    rw [hf, Text.pieces_append] at hp
    obtain ⟨init, name, rfl⟩ := (List.eq_nil_or_concat names).resolve_left hn
    have hl : name = [] := by
      have hlast := congrArg List.getLast? hp
      cases absolute <;> simp [Text.pieces, List.getLast?_cons] at hlast <;> exact hlast
    have hk := (hc name (by simp)).1
    rw [hl] at hk
    cases hk
  · rfl

lemma ofComponents_ne_empty {absolute : Bool} (hc : Path.Clean names) (hn : names ≠ []) :
    (Path.ofComponents absolute names).os ≠ [] := by
  intro he
  have hnames : (Path.ofComponents absolute names).names = names := Path.names_ofComponents hc hn
  rw [Path.names, he] at hnames
  exact hn hnames.symm

lemma isDirectory_above {last : Option OsText} (hp : tree.resolveParent path = .ok (upper, last))
    (hc : path.components = names ++ [name]) (hn : names ≠ []) :
    tree.isDirectory (Path.ofComponents path.isAbsolute names) = true := by
  obtain ⟨hcheck, hl, -⟩ := resolveParent_ok_iff.mp hp
  have hclean : Path.Clean names := fun other ho =>
    Path.clean_components path other (hc ▸ List.mem_append_left _ ho)
  -- The last component is the last name, or stands before it where that one leads nowhere.
  obtain ⟨found, hfound, hd⟩ : ∃ found, Leads tree false mostLinks [] names found ∧
      tree.find? found = some .directory := by
    rw [origin_root] at hl
    have hs : Leads tree false mostLinks [] ((path.names.dropLast ++ [here]).filter counts) upper := hl.skip []
    rw [List.filter_append, List.filter_cons_of_neg (by decide), List.filter_nil, List.append_nil] at hs
    rcases List.eq_nil_or_concat path.names with he | ⟨init, other, he⟩
    · rw [← Path.filter_names, he] at hc
      simp at hc
    rw [he, List.concat_eq_append, List.dropLast_concat] at hs
    rw [← Path.filter_names, he, List.concat_eq_append, List.filter_append] at hc
    by_cases hk : counts other = true
    · rw [List.filter_cons_of_pos hk, List.filter_nil] at hc
      obtain ⟨hi, -⟩ := List.append_inj' hc rfl
      rw [hi] at hs
      exact ⟨upper, hs, (walkable_of_resolveParent hp).directory⟩
    · rw [List.filter_cons_of_neg hk, List.filter_nil, List.append_nil] at hc
      rw [hc] at hs
      obtain ⟨found, hf⟩ := hs.front (List.cons_ne_nil _ _)
      have hw : tree.Walkable found := hf.ends_at_here (walkable_root tree) (by simp)
      exact ⟨found, by simpa using hf.extend fun _ => .stop, hw.directory⟩
  refine isDirectory_iff.mpr ⟨found, resolve_ok_iff.mpr ⟨?_, ?_⟩, hd⟩
  · obtain ⟨hnul, -, hshort⟩ := checkPath_ok_iff.mp hcheck
    have hsub := Path.ofComponents_sublist hc
    exact checkPath_ok_iff.mpr ⟨fun h => hnul (hsub.subset h), ofComponents_ne_empty hclean hn,
      Nat.le_trans (OsText.byteLength_le_of_sublist hsub) hshort⟩
  · rw [origin_root, steps_ofComponents hclean hn]
    exact hfound

lemma makeDirectoriesAlong_error (h : tree.makeDirectoriesAlong (path :: paths) = (.error e, made)) :
    (∃ f, tree.makeDirectory path = .error f ∧ f ≠ .missing ∧ tree.isDirectory path = false ∧ made = tree) ∨
      tree.makeDirectoriesAlong paths = (.error e, made) ∨
      (tree.makeDirectoriesAlong paths = (.ok (), made) ∧ made.isDirectory path = false ∧
        ∃ f, made.makeDirectory path = .error f) := by
  rw [makeDirectoriesAlong] at h
  split at h
  · cases h
  · split at h
    · rename_i hb
      cases h
      exact .inr (.inl hb)
    · rename_i between hb
      split at h
      · cases h
      · rename_i f hf
        split at h
        · cases h
        · rename_i hd
          cases h
          exact .inr (.inr ⟨hb, by simpa using hd, _, hf⟩)
  · rename_i hmissing hf
    split at h
    · cases h
    · rename_i hd
      cases h
      exact .inl ⟨_, hf, by simpa using hmissing, by simpa using hd, rfl⟩

lemma makeDirectoriesAlong_stuck (hm : tree.makeDirectory path = .error e) (hd : tree.isDirectory path = false)
    (ha : e = .missing → (tree.makeDirectoriesAlong paths).2 = tree) :
    ∃ f, tree.makeDirectoriesAlong (path :: paths) = (.error f, tree) := by
  rw [makeDirectoriesAlong, hm]
  by_cases he : e = .missing
  · subst he
    rcases hp : tree.makeDirectoriesAlong paths with ⟨f | u, between⟩
    · obtain rfl : between = tree := by simpa [hp] using ha rfl
      exact ⟨f, rfl⟩
    · obtain rfl : between = tree := by simpa [hp] using ha rfl
      exact ⟨.missing, by simp [hm, hd]⟩
  · cases e <;> simp_all

lemma makeDirectory_below (hc : path.components = names ++ [name]) (hn : names ≠ [])
    (hd : tree.isDirectory (Path.ofComponents path.isAbsolute names) = false) :
    tree.isDirectory path = false ∧ ∃ f, tree.makeDirectory path = .error f := by
  constructor
  · by_contra h
    obtain ⟨location, hr, -⟩ := isDirectory_iff.mp (eq_true_of_ne_false h)
    obtain ⟨upper, -, hp⟩ := resolveParent_of_resolve hr
    rw [isDirectory_above hp hc hn] at hd
    cases hd
  · cases hm : tree.makeDirectory path with
    | error f => exact ⟨f, rfl⟩
    | ok made =>
      obtain ⟨location, hv, -⟩ := makeDirectory_ok_iff.mp hm
      obtain ⟨upper, last, hp, -⟩ := vacant_parent hv
      rw [isDirectory_above hp hc hn] at hd
      cases hd

lemma makeDirectoriesAlong_again (h : tree.makeDirectoriesAlong paths = (.ok (), made)) :
    made.makeDirectoriesAlong paths = (.ok (), made) := by
  cases paths with
  | nil => rfl
  | cons path paths => exact makeDirectoriesAlong_taken (isDirectory_of_makeDirectoriesAlong h) paths

lemma makeDirectoriesAlong_again_error
    (h : tree.makeDirectoriesAlong (path :: path.parents) = (.error e, made)) :
    ∃ f, made.makeDirectoriesAlong (path :: path.parents) = (.error f, made) := by
  -- The path of the parent has all components but the last, so the induction takes them off at the end.
  generalize hc : path.components = names
  induction names using List.reverseRecOn generalizing path e with
  | nil =>
    have hp : path.parents = [] := by simp [Path.parents, hc]
    rw [hp] at h ⊢
    rcases makeDirectoriesAlong_error h with ⟨f, hm, -, hd, rfl⟩ | hab | ⟨-, hd, f, hm⟩
    · exact makeDirectoriesAlong_stuck hm hd fun _ => rfl
    · cases hab
    · exact makeDirectoriesAlong_stuck hm hd fun _ => rfl
  | append_singleton init name ih =>
    rcases makeDirectoriesAlong_error h with ⟨f, hm, hne, hd, rfl⟩ | hab | ⟨hab, hd, f, hm⟩
    · exact makeDirectoriesAlong_stuck hm hd fun he => absurd he hne
    · by_cases hi : init = []
      · have hp : path.parents = [] := by simp [Path.parents, hc, hi]
        rw [hp] at hab
        cases hab
      have hclean : Path.Clean init := fun other ho =>
        Path.clean_components path other (hc ▸ List.mem_append_left _ ho)
      rw [Path.parents_eq hc hi] at hab ⊢
      obtain ⟨f, hf⟩ := ih hab (Path.components_ofComponents hclean hi)
      have hup : made.isDirectory (Path.ofComponents path.isAbsolute init) = false := by
        by_contra hup
        rw [makeDirectoriesAlong_taken (eq_true_of_ne_false hup)] at hf
        cases hf
      obtain ⟨hd, g, hg⟩ := makeDirectory_below hc hi hup
      exact makeDirectoriesAlong_stuck hg hd fun _ => by rw [hf]
    · exact makeDirectoriesAlong_stuck hm hd fun _ => by rw [makeDirectoriesAlong_again hab]

theorem makeDirectories_again_error (h : tree.makeDirectories path = (.error e, made)) :
    ∃ f, made.makeDirectories path = (.error f, made) := by
  rw [makeDirectories, ancestors] at h ⊢
  by_cases hn : path.os.isEmpty = true
  · rw [if_pos hn] at h
    cases h
  · rw [if_neg hn] at h ⊢
    exact makeDirectoriesAlong_again_error h

end DeclSplit.FileTree
