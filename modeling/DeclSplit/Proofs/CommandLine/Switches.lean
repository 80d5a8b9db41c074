import DeclSplit.CommandLine.Arguments
import Mathlib.Tactic.Lemma

/-! Switches.  With one more of them, wherever it is put, a command line is refused or asks for the same. -/

namespace DeclSplit.CommandLine

def Parameter.spellings : Parameter → List OsText
  | debug => ["--debug", "-d"]
  | overwrite => ["--overwrite"]
  | json => ["--json"]
  | _ => []

inductive Agree {α : Type} (R : α → α → Prop) : Except Stop α → Except Stop α → Prop
  | ok {a b} : R a b → Agree R (.ok a) (.ok b)
  | answered {request} : Agree R (.error (.answer request)) (.error (.answer request))
  | refused {e other} : Agree R (.error (.fault e)) other
  | otherRefused {one e} : Agree R one (.error (.fault e))

section Agree

variable {α β : Type} {R : α → α → Prop} {S : β → β → Prop} {x y : Except Stop α}

lemma Agree.bind {f g : α → Except Stop β} (h : Agree R x y) (hf : ∀ a b, R a b → Agree S (f a) (g b)) :
    Agree S (x >>= f) (y >>= g) := by
  cases h with
  | ok hr => exact hf _ _ hr
  | answered => exact .answered
  | refused => exact .refused
  | otherRefused => exact .otherRefused

lemma Agree.mono {R' : α → α → Prop} (h : Agree R x y) (hr : ∀ a b, R a b → R' a b) : Agree R' x y := by
  cases h with
  | ok h => exact .ok (hr _ _ h)
  | answered => exact .answered
  | refused => exact .refused
  | otherRefused => exact .otherRefused

lemma Agree.of_eq (hr : ∀ a, R a a) (h : x = y) : Agree R x y := by
  subst h
  cases x with
  | ok a => exact .ok (hr a)
  | error stop =>
    cases stop with
    | fault e => exact .refused
    | answer request => exact .answered

end Agree

namespace Reading

variable {scope : Scope} {p : Parameter} {r r' : Reading}

structure Alike (p : Parameter) (r r' : Reading) : Prop where
  used : ∀ q, q ≠ p → (q ∈ r.used ↔ q ∈ r'.used)
  pending : r.pending = r'.pending
  input : r.input = r'.input
  output : r.output = r'.output
  mode : r.mode = r'.mode

lemma Alike.refl (p : Parameter) (r : Reading) : Alike p r r := ⟨fun _ _ => Iff.rfl, rfl, rfl, rfl, rfl⟩

lemma Alike.await (h : Alike p r r') (waiting : Option (Parameter × Option OsText)) :
    Alike p { r with pending := waiting } { r' with pending := waiting } :=
  ⟨h.used, rfl, h.input, h.output, h.mode⟩

lemma Alike.use (h : Alike p r r') (q : Parameter) :
    Alike p { r with used := r.used ++ [q] } { r' with used := r'.used ++ [q] } := by
  refine ⟨?_, h.pending, h.input, h.output, h.mode⟩
  intro other ho
  simp [h.used other ho]

lemma alike_use (p : Parameter) (r : Reading) : Alike p r { r with used := r.used ++ [p] } := by
  refine ⟨?_, rfl, rfl, rfl, rfl⟩
  intro q hq
  simp [hq]

lemma accept_agree (h : Alike p r r') (scope : Scope) (q : Parameter) (value : OsText) :
    Agree (Alike p) (accept scope q value r) (accept scope q value r') := by
  by_cases hr : q ∈ r.used
  · rw [accept, if_pos hr]
    exact .refused
  by_cases hr' : q ∈ r'.used
  · rw [accept.eq_def scope q value r', if_pos hr']
    exact .otherRefused
  have hused := h.use q
  simp only [accept, if_neg hr, if_neg hr']
  cases q with
  | mode =>
    cases value.text?.bind MatchMode.ofSpelling? with
    | none => exact .refused
    | some mode => exact .ok ⟨hused.used, hused.pending, hused.input, hused.output, rfl⟩
  | output =>
    by_cases hv : value.isEmpty = true
    · simp only [if_pos hv]
      exact .refused
    · simp only [if_neg hv]
      exact .ok ⟨hused.used, hused.pending, hused.input, rfl, hused.mode⟩
  | input =>
    by_cases hv : value.isEmpty = true
    · simp only [if_pos hv]
      exact .refused
    · simp only [if_neg hv]
      exact .ok ⟨hused.used, hused.pending, rfl, hused.output, hused.mode⟩
  | _ => exact .ok hused

lemma settle_agree (h : Alike p r r') (scope : Scope) :
    Agree (Alike p) (r.settle scope) (r'.settle scope) := by
  rw [settle, settle, ← h.pending]
  cases r.pending with
  | none => exact .ok h
  | some waiting =>
    obtain ⟨q, value⟩ := waiting
    cases value with
    | none => exact .refused
    | some value => exact accept_agree (h.await none) scope q value

lemma flag_agree (h : Agree (Alike p) (r.settle scope) (r'.settle scope)) (q : Parameter) :
    Agree (Alike p) (r.flag scope q) (r'.flag scope q) := by
  apply h.bind
  intro s s' hs
  cases q with
  | help | version => exact .answered
  | _ => exact accept_agree hs scope _ []

lemma long_agree (h : Agree (Alike p) (r.settle scope) (r'.settle scope)) (name : OsText) (value : Option OsText)
    (rest rest' : List OsText) : Agree (Alike p) (r.long scope name value rest) (r'.long scope name value rest') := by
  rw [long, long]
  cases scope.ofLong? name with
  | none => exact .refused
  | some q =>
    simp only
    split
    · exact flag_agree h q
    · exact .refused
    · exact h.bind fun s s' hs => .ok (hs.await _)
    · exact h.bind fun s s' hs => accept_agree hs scope q _

lemma letters_agree (h : Agree (Alike p) (r.settle scope) (r'.settle scope)) (c : OsChar) (cs : OsText) :
    Agree (Alike p) (letters scope (c :: cs) r) (letters scope (c :: cs) r') := by
  induction cs generalizing c r r' with
  | nil =>
    cases c with
    | stray b => exact .refused
    | char c =>
      rw [letters, letters]
      cases scope.ofShort? c with
      | none => exact .refused
      | some q => exact (flag_agree h q).bind fun s s' hs => .ok hs
  | cons d cs ih =>
    cases c with
    | stray b => exact .refused
    | char c =>
      rw [letters, letters]
      cases scope.ofShort? c with
      | none => exact .refused
      | some q => exact (flag_agree h q).bind fun s s' hs => ih (settle_agree hs scope) d

lemma positional_agree (h : Agree (Alike p) (r.settle scope) (r'.settle scope)) (value : OsText) :
    Agree (Alike p) (r.positional scope value) (r'.positional scope value) := by
  rw [positional, positional]
  split
  · exact .refused
  · split
    · exact .otherRefused
    · exact h.bind fun s s' hs => .ok (hs.await _)

lemma positionals_agree (h : Agree (Alike p) (r.settle scope) (r'.settle scope)) (values : List OsText) :
    Agree (Alike p) (values.foldlM (fun r value => r.positional scope value) r >>= settle scope)
      (values.foldlM (fun r value => r.positional scope value) r' >>= settle scope) := by
  induction values generalizing r r' with
  | nil => exact h
  | cons value values ih =>
    rw [List.foldlM_cons, List.foldlM_cons, bind_assoc, bind_assoc]
    exact (positional_agree h value).bind fun s s' hs => ih (settle_agree hs scope)

inductive Near (scope : Scope) (p : Parameter) (r r' : Reading) : Prop
  | alike : Alike p r r' → Near scope p r r'
  | settled : (∀ q, r.pending ≠ some (q, none)) → (∀ q, r'.pending ≠ some (q, none)) →
      Agree (Alike p) (r.settle scope) (r'.settle scope) → Near scope p r r'

lemma Near.settle (h : Near scope p r r') : Agree (Alike p) (r.settle scope) (r'.settle scope) := by
  cases h with
  | alike h => exact settle_agree h scope
  | settled _ _ h => exact h

lemma word_eq_positional (h : ∀ q, r.pending ≠ some (q, none)) (scope : Scope) (value : OsText) :
    r.word scope value = r.positional scope value := by
  rw [word]
  split
  · rename_i q hq
    exact absurd hq (h q)
  · rfl

lemma word_agree (h : Near scope p r r') (value : OsText) :
    Agree (Alike p) (r.word scope value) (r'.word scope value) := by
  have hsettle := h.settle
  cases h with
  | settled hr hr' _ =>
    rw [word_eq_positional hr, word_eq_positional hr']
    exact positional_agree hsettle value
  | alike h =>
    rw [word, word, ← h.pending]
    split
    · exact .ok (h.await _)
    · exact positional_agree hsettle value

lemma arguments_agree (h : Near scope p r r') (args : List OsText) :
    Agree (Alike p) (arguments scope args r) (arguments scope args r') := by
  induction args generalizing r r' with
  | nil => exact h.settle
  | cons arg rest ih =>
    rw [arguments, arguments]
    cases Form.ofArgument arg with
    | separator => exact positionals_agree h.settle rest
    | long name value => exact (long_agree h.settle name value rest rest).bind fun s s' hs => ih (.alike hs)
    | word => exact (word_agree h arg).bind fun s s' hs => ih (.alike hs)
    | letters cs =>
      cases cs with
      | nil => exact ih h
      | cons c cs => exact (letters_agree h.settle c cs).bind fun s s' hs => ih (.alike hs)

lemma accept_cases (scope : Scope) (q : Parameter) (value : OsText) (r : Reading) :
    (∃ e, accept scope q value r = fault e) ∨
      ∃ s, accept scope q value r = .ok s ∧ s.used = r.used ++ [q] ∧ s.pending = r.pending ∧ q ∉ r.used := by
  by_cases hr : q ∈ r.used
  · exact .inl ⟨_, if_pos hr⟩
  simp only [accept, if_neg hr]
  cases q with
  | mode =>
    cases value.text?.bind MatchMode.ofSpelling? with
    | none => exact .inl ⟨_, rfl⟩
    | some mode => exact .inr ⟨_, rfl, rfl, rfl, hr⟩
  | output | input =>
    by_cases hv : value.isEmpty = true
    · simp only [if_pos hv]
      exact .inl ⟨_, rfl⟩
    · simp only [if_neg hv]
      exact .inr ⟨_, rfl, rfl, rfl, hr⟩
  | _ => exact .inr ⟨_, rfl, rfl, rfl, hr⟩

lemma settle_cases (scope : Scope) (r : Reading) :
    (∃ e, r.settle scope = fault e) ∨
      ∃ s, r.settle scope = .ok s ∧ s.used = r.usedWithPending ∧ s.pending = none := by
  rw [settle, usedWithPending]
  cases hp : r.pending with
  | none => exact .inr ⟨r, rfl, rfl, hp⟩
  | some waiting =>
    obtain ⟨q, value⟩ := waiting
    cases value with
    | none => exact .inl ⟨_, rfl⟩
    | some value =>
      rcases accept_cases scope q value { r with pending := none } with he | ⟨s, hs, hused, hpending, hq⟩
      · exact .inl he
      · exact .inr ⟨s, hs, hused.trans (if_neg hq).symm, hpending⟩

lemma positional_cases (scope : Scope) (value : OsText) (r : Reading) :
    (∃ e, r.positional scope value = fault e) ∨
      ∃ s, r.settle scope = .ok s ∧ .input ∉ s.used ∧
        r.positional scope value = .ok { s with pending := some (.input, some value) } := by
  rw [positional]
  by_cases hi : .input ∈ r.usedWithPending
  · exact .inl ⟨_, if_pos hi⟩
  rw [if_neg hi]
  rcases settle_cases scope r with ⟨e, he⟩ | ⟨s, hs, hused, -⟩
  · rw [he]
    exact .inl ⟨e, rfl⟩
  · rw [hs]
    exact .inr ⟨s, rfl, hused ▸ hi, rfl⟩

lemma positionals_two (scope : Scope) (value other : OsText) (values : List OsText) (r : Reading) :
    ∃ e, (value :: other :: values).foldlM (fun r value => r.positional scope value) r = fault e := by
  rw [List.foldlM_cons]
  rcases positional_cases scope value r with ⟨e, he⟩ | ⟨s, -, hi, hs⟩
  · rw [he]
    exact ⟨e, rfl⟩
  · have htaken : .input ∈ ({ s with pending := some (.input, some value) } : Reading).usedWithPending := by
      simp [usedWithPending, hi]
    rw [hs]
    refine ⟨.unexpected scope other.shown none [], ?_⟩
    change List.foldlM _ _ _ = _
    rw [List.foldlM_cons, positional, if_pos htaken]
    rfl

inductive Turns (p : Parameter) : Form → Prop
  | long {name} : (∀ scope : Scope, scope.ofLong? name = none ∨ scope.ofLong? name = some p) →
      Turns p (.long name none)
  | letter {c} : (∀ scope : Scope, scope.ofShort? c = none ∨ scope.ofShort? c = some p) → Turns p (.letters [.char c])

variable {switch : OsText} {front back : List OsText}

lemma turns_of_mem (h : switch ∈ p.spellings) : Turns p (Form.ofArgument switch) := by
  cases p with
  | debug =>
    rcases List.mem_cons.mp h with rfl | h
    · exact .long fun scope => by cases scope <;> decide
    · obtain rfl := List.mem_singleton.mp h
      exact .letter fun scope => by cases scope <;> decide
  | overwrite | json =>
    obtain rfl := List.mem_singleton.mp h
    exact .long fun scope => by cases scope <;> decide
  | _ => cases h

lemma flag_switch (h : switch ∈ p.spellings) (scope : Scope) (r : Reading) :
    (∃ e, r.flag scope p = fault e) ∨
      ∃ s, r.settle scope = .ok s ∧ s.pending = none ∧
        r.flag scope p = .ok { s with used := s.used ++ [p] } := by
  have hflag : r.flag scope p = r.settle scope >>= accept scope p [] := by
    cases p with
    | debug | overwrite | json => rfl
    | _ => cases h
  rw [hflag]
  rcases settle_cases scope r with ⟨e, he⟩ | ⟨s, hs, -, hpending⟩
  · rw [he]
    exact .inl ⟨e, rfl⟩
  · have haccept : accept scope p [] s =
        if p ∈ s.used then fault (.repeated scope p) else .ok { s with used := s.used ++ [p] } := by
      cases p with
      | debug | overwrite | json => rfl
      | _ => cases h
    have htaken : r.settle scope >>= accept scope p [] = accept scope p [] s := by
      rw [hs]
      rfl
    rw [htaken, haccept]
    by_cases hp : p ∈ s.used
    · exact .inl ⟨_, if_pos hp⟩
    · exact .inr ⟨s, hs, hpending, if_neg hp⟩

lemma flag_near (h : switch ∈ p.spellings) (scope : Scope) (r : Reading) :
    Agree (Near scope p) (.ok r) (r.flag scope p) := by
  -- A switch has what is pending looked at, so that the readings differ in more than it until that is done in both.
  rcases flag_switch h scope r with ⟨e, he⟩ | ⟨s, hs, hpending, hflag⟩
  · rw [he]
    exact .otherRefused
  · rw [hflag]
    apply Agree.ok
    have hsettle : settle scope { s with used := s.used ++ [p] } = .ok { s with used := s.used ++ [p] } := by
      rw [settle, hpending]
    refine .settled ?_ (by simp [hpending]) ?_
    · intro q hq
      rw [settle, hq] at hs
      cases hs
    · rw [hs, hsettle]
      exact .ok (alike_use p s)

lemma long_near {name : OsText} (h : switch ∈ p.spellings) (scope : Scope)
    (hname : scope.ofLong? name = none ∨ scope.ofLong? name = some p) (rest : List OsText) (r : Reading) :
    Agree (Near scope p) (.ok r) (r.long scope name none rest) := by
  have hplain : p.placeholder? = none := by
    cases p with
    | debug | overwrite | json => rfl
    | _ => cases h
  rw [long]
  rcases hname with hn | hn
  · rw [hn]
    exact .otherRefused
  · simp only [hn, hplain]
    exact flag_near h scope r

lemma letter_near {c : Char} (h : switch ∈ p.spellings) (scope : Scope)
    (hc : scope.ofShort? c = none ∨ scope.ofShort? c = some p) (r : Reading) :
    Agree (Near scope p) (.ok r) (letters scope [.char c] r) := by
  rw [letters]
  rcases hc with hn | hn
  · rw [hn]
    exact .otherRefused
  · have hflag : (r.flag scope p >>= letters scope []) = r.flag scope p := bind_pure _
    simp only [hn]
    rw [hflag]
    exact flag_near h scope r

lemma positionals_insert (scope : Scope) (p : Parameter) (switch : OsText) (front back : List OsText) (r : Reading) :
    Agree (fun s s' => .input ∈ s.used → Alike p s s')
      ((front ++ back).foldlM (fun r value => r.positional scope value) r >>= settle scope)
      ((front ++ switch :: back).foldlM (fun r value => r.positional scope value) r >>= settle scope) := by
  -- There may be one value.  Where the switch is it, the other command line has none.
  rcases front with _ | ⟨value, front⟩
  · rcases back with _ | ⟨value, back⟩
    · rw [List.nil_append, List.nil_append, List.foldlM_cons]
      rcases positional_cases scope switch r with ⟨e, he⟩ | ⟨s, hs, hi, hp⟩
      · rw [he]
        exact .otherRefused
      · rw [hp]
        change Agree _ (r.settle scope) (settle scope { s with pending := some (.input, some switch) })
        rw [hs]
        rcases settle_cases scope { s with pending := some (.input, some switch) } with ⟨e, he⟩ | ⟨t, ht, -⟩
        · rw [he]
          exact .otherRefused
        · rw [ht]
          exact .ok fun hmem => absurd hmem hi
    · obtain ⟨e, he⟩ := positionals_two scope switch value back r
      rw [List.nil_append, List.nil_append, he]
      exact .otherRefused
  · obtain ⟨other, values, hvalues⟩ : ∃ other values, front ++ switch :: back = other :: values :=
      List.exists_cons_of_ne_nil (by simp)
    obtain ⟨e, he⟩ := positionals_two scope value other values r
    rw [List.cons_append, List.cons_append, hvalues, he]
    exact .otherRefused

lemma long_rest (r : Reading) (scope : Scope) (name : OsText) (value : Option OsText) (rest rest' : List OsText) :
    Agree Eq (r.long scope name value rest) (r.long scope name value rest') := by
  rw [long, long]
  cases scope.ofLong? name with
  | none => exact .refused
  | some q => exact .of_eq (fun _ => rfl) rfl

lemma arguments_insert (h : switch ∈ p.spellings) (scope : Scope) (front back : List OsText) (r : Reading) :
    Agree (fun s s' => .input ∈ s.used → Alike p s s') (arguments scope (front ++ back) r)
      (arguments scope (front ++ switch :: back) r) := by
  induction front generalizing r with
  | nil =>
    -- Here the switch is taken.  The two readings are near from now on, and stay so for the same arguments.
    have hrest : ∀ s s', Near scope p s s' → Agree (fun s s' => .input ∈ s.used → Alike p s s')
        (arguments scope back s) (arguments scope back s') :=
      fun s s' hs => (arguments_agree hs back).mono fun _ _ ha _ => ha
    have hturns := turns_of_mem h
    rw [List.nil_append, List.nil_append, arguments.eq_def scope (switch :: back)]
    simp only
    generalize Form.ofArgument switch = form at hturns
    cases hturns with
    | long hname => exact (long_near h scope (hname scope) back r).bind hrest
    | letter hc => exact (letter_near h scope (hc scope) r).bind hrest
  | cons arg front ih =>
    have hsame : ∀ s s', s = s' → Agree (fun s s' => .input ∈ s.used → Alike p s s')
        (arguments scope (front ++ back) s) (arguments scope (front ++ switch :: back) s') := by
      rintro s _ rfl
      exact ih s
    rw [List.cons_append, List.cons_append, arguments, arguments]
    cases Form.ofArgument arg with
    | separator => exact positionals_insert scope p switch front back r
    | long name value => exact (long_rest r scope name value _ _).bind hsame
    | letters cs => exact (Agree.of_eq (fun _ => rfl) rfl).bind hsame
    | word => exact (Agree.of_eq (fun _ => rfl) rfl).bind hsame

end Reading

def Command.without (p : Parameter) : Command → Command
  | create input output overwrite mode json =>
    create input output (overwrite && p ≠ .overwrite) mode (json && p ≠ .json)
  | list input json => list input (json && p ≠ .json)

def Request.without (p : Parameter) : Request → Request
  | run invocation => run ⟨invocation.debug && p ≠ .debug, invocation.command.without p⟩
  | request => request

variable {p : Parameter} {r r' : Reading} {switch : OsText}

lemma Reading.request_agree (h : .input ∈ r.used → r.Alike p r') (scope : Scope) {debug debug' : Bool}
    (hd : (debug && p ≠ .debug) = (debug' && p ≠ .debug)) :
    Agree (fun q q' => q.without p = q'.without p) (r.request scope debug) (r'.request scope debug') := by
  rw [request, request]
  by_cases hi : .input ∈ r.used
  · by_cases hi' : .input ∈ r'.used
    · have halike := h hi
      have hon : ∀ q, (decide (q ∈ r.used) && p ≠ q) = (decide (q ∈ r'.used) && p ≠ q) := by
        intro q
        by_cases hq : q = p
        · simp [hq]
        · simp [halike.used q hq]
      simp only [if_pos hi, if_pos hi']
      apply Agree.ok
      by_cases hl : scope = .list
      · simp only [if_pos hl, Request.without, Command.without, Bool.and_or_distrib_right, hd, hon, halike.input]
      · simp only [if_neg hl, Request.without, Command.without, Bool.and_or_distrib_right, hd, hon, halike.input,
          halike.output, halike.mode]
    · rw [if_neg hi']
      exact .otherRefused
  · rw [if_neg hi]
    exact .refused

lemma ofName?_of_mem (h : switch ∈ p.spellings) : Scope.ofName? switch = none := by
  have hall : ∀ p : Parameter, ∀ switch ∈ p.spellings, Scope.ofName? switch = none := by
    intro p
    cases p <;> decide
  exact hall p switch h

lemma explain_refused (hs : Scope.ofName? switch = none) {words : List OsText} (h : switch ∈ words) (scope : Scope) :
    ∃ e, explain scope words = Reading.fault e := by
  induction words generalizing scope with
  | nil => cases h
  | cons word rest ih =>
    rw [explain]
    split
    · rename_i command hc
      apply ih
      refine (List.mem_cons.mp h).resolve_left ?_
      rintro rfl
      rw [hs, ite_self] at hc
      cases hc
    · exact ⟨_, rfl⟩

lemma program_agree (h : r.Near .program .debug r') (args : List OsText) :
    Agree (fun q q' => q.without .debug = q'.without .debug) (program args r) (program args r') := by
  induction args generalizing r r' with
  | nil => exact .refused
  | cons arg rest ih =>
    rw [program.eq_def (arg :: rest) r, program.eq_def (arg :: rest) r']
    simp only
    cases Form.ofArgument arg with
    | separator => cases rest <;> exact .refused
    | long name value => exact (Reading.long_agree h.settle name value rest rest).bind fun s s' hs => ih (.alike hs)
    | letters cs =>
      cases cs with
      | nil => exact ih h
      | cons c cs => exact (Reading.letters_agree h.settle c cs).bind fun s s' hs => ih (.alike hs)
    | word =>
      simp only
      split
      · exact .of_eq (fun _ => rfl) rfl
      · rename_i scope _ _
        refine (Agree.of_eq (fun _ => rfl) rfl).bind ?_
        rintro a _ rfl
        exact Reading.request_agree (fun _ => .refl _ a) scope (by simp)
      · exact .refused

lemma eq_debug_of_program (h : switch ∈ p.spellings) (hp : p ∈ Scope.program.parameters) : p = .debug := by
  cases p with
  | debug => rfl
  | help | version => cases h
  | _ => exact absurd hp (by decide)

lemma program_insert (h : switch ∈ p.spellings) (front back : List OsText) (r : Reading) :
    Agree (fun q q' => q.without p = q'.without p) (program (front ++ back) r)
      (program (front ++ switch :: back) r) := by
  induction front generalizing r with
  | nil =>
    have hturns := Reading.turns_of_mem h
    rw [List.nil_append, List.nil_append, program.eq_def (switch :: back)]
    simp only
    generalize Form.ofArgument switch = form at hturns
    -- In front of the command there is no place for the switches of commands.
    by_cases hp : p ∈ Scope.program.parameters
    · obtain rfl := eq_debug_of_program h hp
      cases hturns with
      | long hname =>
        exact (Reading.long_near h .program (hname .program) back r).bind fun s s' hs => program_agree hs back
      | letter hc =>
        exact (Reading.letter_near h .program (hc .program) r).bind fun s s' hs => program_agree hs back
    · cases hturns with
      | long hname =>
        rcases hname .program with hn | hn
        · simp only [Reading.long, hn]
          exact .otherRefused
        · exact absurd (List.mem_of_find?_eq_some hn) hp
      | letter hc =>
        rcases hc .program with hn | hn
        · simp only [Reading.letters, hn]
          exact .otherRefused
        · exact absurd (List.mem_of_find?_eq_some hn) hp
  | cons arg front ih =>
    have hsame : ∀ s s', s = s' → Agree (fun q q' => q.without p = q'.without p)
        (program (front ++ back) s) (program (front ++ switch :: back) s') := by
      rintro s _ rfl
      exact ih s
    rw [List.cons_append, List.cons_append, program.eq_def (arg :: (front ++ back)),
      program.eq_def (arg :: (front ++ switch :: back))]
    simp only
    cases Form.ofArgument arg with
    | separator => cases front ++ back <;> exact .refused
    | long name value => exact (Reading.long_rest r .program name value _ _).bind hsame
    | letters cs => exact (Agree.of_eq (fun _ => rfl) rfl).bind hsame
    | word =>
      simp only
      split
      · -- The words behind `help` are names of commands.
        obtain ⟨e, he⟩ := explain_refused (ofName?_of_mem h) (List.mem_append_right front List.mem_cons_self) .program
        rw [he]
        exact .otherRefused
      · rename_i scope _ _
        exact (Reading.arguments_insert h scope front back {}).bind fun s s' hs => Reading.request_agree hs scope rfl
      · exact .refused

lemma parse_insert {front back : List OsText} {request request' : Request} (h : switch ∈ p.spellings)
    (hp : parse (front ++ back) = .ok request) (hp' : parse (front ++ switch :: back) = .ok request') :
    request.without p = request'.without p := by
  have hagree := program_insert h front back {}
  rw [parse] at hp hp'
  generalize program (front ++ back) {} = x at hp hagree
  generalize program (front ++ switch :: back) {} = y at hp' hagree
  cases hagree with
  | ok hq =>
    cases hp
    cases hp'
    exact hq
  | answered =>
    cases hp
    cases hp'
    rfl
  | refused => cases hp
  | otherRefused => cases hp'

end DeclSplit.CommandLine
