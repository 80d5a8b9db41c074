import DeclSplit.Proofs.Files.Directories

/-! What operations leave alone in a tree without links, where a path leads to the place that it spells. -/

namespace DeclSplit.FileTree

open DeclSplit.Path (counts)

variable {tree later last : FileTree} {w : Bool} {links : ℕ} {dir location : Location} {path : Path}
  {names : List OsText} {contents : Contents} {entry : Entry}

def enter (dir : Location) (name : OsText) : Location := if name = above then dir.dropLast else dir ++ [name]

/-- The place that names spell: two dots take back the name in front of them. -/
def site (names : List OsText) : Location := names.foldl enter []

def Linkless (tree : FileTree) : Prop := ∀ location target, tree.find? location ≠ some (.link target)

lemma linkless_of_entries (h : ∀ e ∈ tree.entries, ∀ target, e.2 ≠ .link target) : tree.Linkless := by
  intro location target hf
  cases location with
  | nil => cases hf
  | cons name rest => exact h _ (mem_of_lookup hf) target rfl

lemma Leads.eq_foldl (hl : tree.Linkless) (h : Leads tree w links dir names location)
    (hc : ∀ name ∈ names, counts name = true) : location = names.foldl enter dir := by
  induction h with
  | stop => rfl
  | stay hs _ _ =>
    have hn := hc _ List.mem_cons_self
    rcases hs with rfl | rfl <;> cases hn
  | up _ ih =>
    rw [ih fun name hn => hc name (List.mem_cons_of_mem _ hn), List.foldl_cons, enter, if_pos rfl]
  | down hp _ _ _ ih =>
    rw [ih fun name hn => hc name (List.mem_cons_of_mem _ hn), List.foldl_cons, enter, if_neg hp.ne_above]
  | arrive hp _ => rw [List.foldl_cons, List.foldl_nil, enter, if_neg hp.ne_above]
  | link _ _ hf _ _ => exact absurd hf (hl _ _)

lemma counts_of_mem_components {name : OsText} (h : name ∈ path.components) : counts name = true :=
  (Path.clean_components path name h).1

lemma resolve_site (hl : tree.Linkless) (h : tree.resolve path w = .ok location) :
    location = site path.components :=
  (leads_components h).eq_foldl hl fun _ => counts_of_mem_components

lemma vacant_site (hl : tree.Linkless) (h : tree.vacant path = .ok location) : location = site path.components := by
  obtain ⟨init, name, upper, hc, -, ha, hu, rfl, -⟩ := vacant_components h
  have hinit : ∀ other ∈ init, counts other = true := by
    intro other ho
    exact counts_of_mem_components (hc ▸ List.mem_append_left _ ho)
  rw [hc, site, List.foldl_append, ← hu.eq_foldl hl hinit, List.foldl_cons, List.foldl_nil, enter, if_neg ha]

/-- Nothing is lost on the way from one tree to the other, and files change only at `written`.  What is new is a
directory at `made` or a file at `written`. -/
structure Frame (made written : Location → Prop) (tree later : FileTree) : Prop where
  directory {location : Location} :
    tree.find? location = some .directory → later.find? location = some .directory
  file {location : Location} {contents : Contents} : tree.find? location = some (.file contents) →
    ∃ contents', later.find? location = some (.file contents') ∧ (contents' ≠ contents → written location)
  new {location : Location} {entry : Entry} : tree.find? location = none → later.find? location = some entry →
    (entry = .directory ∧ made location) ∨ ((∃ contents, entry = .file contents) ∧ written location)

namespace Frame

variable {made written : Location → Prop}

lemma refl (tree : FileTree) : Frame made written tree tree where
  directory hd := hd
  file hf := ⟨_, hf, fun hne => absurd rfl hne⟩
  new hn hs := by
    rw [hn] at hs
    cases hs

lemma trans (h : Frame made written tree later) (h' : Frame made written later last) :
    Frame made written tree last where
  directory hd := h'.directory (h.directory hd)
  file := by
    intro location contents hf
    obtain ⟨between, hb, hw⟩ := h.file hf
    obtain ⟨final, hl, hw'⟩ := h'.file hb
    refine ⟨final, hl, ?_⟩
    intro hne
    by_cases hsame : between = contents
    · exact hw' (hsame ▸ hne)
    · exact hw hsame
  new := by
    intro location entry hn hs
    cases hb : later.find? location with
    | none => exact h'.new hb hs
    | some between =>
      rcases h.new hn hb with ⟨rfl, hm⟩ | ⟨⟨contents, rfl⟩, hw⟩
      · rw [h'.directory hb] at hs
        exact .inl ⟨(Option.some.inj hs).symm, hm⟩
      · obtain ⟨final, hf, -⟩ := h'.file hb
        rw [hf] at hs
        exact .inr ⟨⟨final, (Option.some.inj hs).symm⟩, hw⟩

lemma mono {written' : Location → Prop} (h : Frame made written tree later)
    (hw : ∀ location, written location → written' location) : Frame made written' tree later where
  directory := h.directory
  file hf := (h.file hf).imp fun _ hs => ⟨hs.1, fun hne => hw _ (hs.2 hne)⟩
  new hn hs := (h.new hn hs).imp_right fun hf => ⟨hf.1, hw _ hf.2⟩

lemma linkless (h : Frame made written tree later) (hl : tree.Linkless) : later.Linkless := by
  intro location target hs
  cases hf : tree.find? location with
  | none => rcases h.new hf hs with ⟨he, -⟩ | ⟨⟨contents, he⟩, -⟩ <;> cases he
  | some entry =>
    cases entry with
    | directory =>
      rw [h.directory hf] at hs
      cases hs
    | file contents =>
      obtain ⟨final, hfinal, -⟩ := h.file hf
      rw [hfinal] at hs
      cases hs
    | link old => exact hl _ _ hf

lemma makeDirectory (hl : tree.Linkless) (hm : tree.makeDirectory path = .ok later)
    (hp : made (site path.components)) : Frame made written tree later := by
  obtain ⟨place, hv, rfl⟩ := makeDirectory_ok_iff.mp hm
  obtain ⟨upper, name, rfl, -, hfree⟩ := vacant_ok hv
  have hfind : ∀ other, (tree.put (upper ++ [name]) .directory).find? other =
      if other = upper ++ [name] then some .directory else tree.find? other :=
    find?_put_eq (by simp) .directory
  constructor
  · intro location hd
    rw [hfind]
    split <;> simp_all
  · intro location contents hf
    refine ⟨contents, ?_, fun hne => absurd rfl hne⟩
    rw [hfind, if_neg, hf]
    rintro rfl
    rw [hfree] at hf
    cases hf
  · intro location entry hn hs
    rw [hfind] at hs
    split at hs
    · rename_i hplace
      rw [hplace, vacant_site hl hv]
      exact .inl ⟨(Option.some.inj hs).symm, hp⟩
    · rw [hn] at hs
      cases hs

lemma write (hl : tree.Linkless) (hw : tree.write path contents = .ok later)
    (hp : written (site path.components)) : Frame made written tree later := by
  obtain ⟨place, hv, rfl⟩ := write_ok_iff.mp hw
  have hplace := resolve_site hl (writable_ok_iff.mp hv).1
  have hfind : ∀ other, (tree.put place (.file contents)).find? other =
      if other = place then some (.file contents) else tree.find? other :=
    find?_put_eq (spot_of_writable hv).ne_nil (.file contents)
  constructor
  · intro location hd
    rw [hfind, if_neg, hd]
    rintro rfl
    exact (writable_ok_iff.mp hv).2 hd
  · intro location old hf
    rw [hfind]
    split
    · rename_i he
      exact ⟨contents, rfl, fun _ => he ▸ hplace ▸ hp⟩
    · exact ⟨old, hf, fun hne => absurd rfl hne⟩
  · intro location entry hn hs
    rw [hfind] at hs
    split at hs
    · rename_i he
      exact .inr ⟨⟨contents, (Option.some.inj hs).symm⟩, he ▸ hplace ▸ hp⟩
    · rw [hn] at hs
      cases hs

end Frame

end DeclSplit.FileTree
