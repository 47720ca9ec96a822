import StorageUpgrade.Shell.Arguments

/-!
# Command lines of files and switches

A command line names files and asks for switches by their flags, in any order, and all names can
stand behind the marker `--`.  Reading it sets the switches and the files and nothing else
(`read_of_asks`).

## Strategy

* Reading goes over the arguments from the left: a flag of a switch sets the switch
  (`readTokens_flags`), and a run of names sets the files (`readTokens_run`).
* Names that do not look like flags are a run, and so is the marker with all that stands behind it.
-/

namespace StorageUpgrade

namespace Settings

/-- The settings with some switches on. -/
def switchedOn (s : Settings) (asked : List Attribute) : Settings :=
  asked.foldl (fun s a => s.set a (.bool true)) s

/-- The settings that name some files and have some switches on. -/
def asking (names : List String) (asked : List Attribute) : Settings :=
  (initial.switchedOn asked).set .files (Arguments.textList names)

theorem value_switchedOn (s : Settings) (asked : List Attribute) (b : Attribute) :
    (s.switchedOn asked).value b = if b ∈ asked then .bool true else s.value b := by
  induction asked generalizing s with
  | nil => rfl
  | cons a asked ih =>
      have hfirst : s.switchedOn (a :: asked) = (s.set a (.bool true)).switchedOn asked := rfl
      rw [hfirst, ih, value_set]
      by_cases hb : b ∈ asked
      · rw [if_pos hb, if_pos (List.mem_cons_of_mem a hb)]
      · by_cases hba : b = a <;> simp [hb, hba]

theorem switchedOn_append (s : Settings) (asked asked' : List Attribute) :
    s.switchedOn (asked ++ asked') = (s.switchedOn asked).switchedOn asked' := List.foldl_append

theorem value_asking {a : Attribute} (ha : a ≠ .files) (names : List String)
    (asked : List Attribute) :
    (asking names asked).value a = if a ∈ asked then .bool true else initial.value a := by
  rw [asking, value_set, if_neg ha, value_switchedOn]

end Settings

namespace Arguments

/-- A command line that names some files and asks for some switches: names that do not start with a
dash may stand between the flags, and any names behind the marker. -/
inductive Asks (names : List String) : List Attribute → List String → Prop where
  | between (front back : List Attribute) (hnames : ∀ name ∈ names, name.toList.head? ≠ some '-') :
      Asks names (front ++ back) (front.map Attribute.flag ++ (names ++ back.map Attribute.flag))
  | marked (asked : List Attribute) : Asks names asked (asked.map Attribute.flag ++ "--" :: names)

variable {a : Attribute} {asked : List Attribute} {names : List String} {run ts : List Token}

/-! ### Tokens -/

/-- The token of the flag of an attribute. -/
def flagToken (a : Attribute) : Token := .flag (.attribute a) none

theorem classify_flag (ha : a.definition.kind = .switch) : classify a.flag = flagToken a := by
  cases a <;> first | rfl | cases ha

theorem flag_ne_marker (a : Attribute) : a.flag ≠ "--" := by
  cases a <;> decide

theorem tokens_flags (hasked : ∀ a ∈ asked, a.definition.kind = .switch) (rest : List String) :
    tokens (asked.map Attribute.flag ++ rest) = asked.map flagToken ++ tokens rest := by
  induction asked with
  | nil => rfl
  | cons a asked ih =>
      obtain ⟨ha, hasked⟩ := List.forall_mem_cons.1 hasked
      rw [List.map_cons, List.cons_append, tokens, if_neg (flag_ne_marker a), classify_flag ha,
        ih hasked]
      rfl

theorem classify_of_head?_ne {name : String} (h : name.toList.head? ≠ some '-') :
    classify name = .plain name := by
  unfold classify
  split
  · rename_i hname
    rw [hname] at h
    exact absurd rfl h
  · rfl

theorem tokens_names (hnames : ∀ name ∈ names, name.toList.head? ≠ some '-')
    (rest : List String) : tokens (names ++ rest) = names.map .plain ++ tokens rest := by
  induction names with
  | nil => rfl
  | cons name names ih =>
      obtain ⟨hname, hnames⟩ := List.forall_mem_cons.1 hnames
      have hmarker : name ≠ "--" := by
        rintro rfl
        exact hname rfl
      rw [List.cons_append, tokens, if_neg hmarker, classify_of_head?_ne hname, ih hnames]
      rfl

theorem tokens_marker (names : List String) :
    tokens ("--" :: names) = .marker :: names.map .plain := by
  rw [tokens, if_pos rfl]

/-! ### Reading tokens -/

/-- Reads tokens on from what has been read. -/
def readTokens (p : Progress) (ts : List Token) : Except ArgumentProblem (Request Progress) :=
  readFlags (p.takeRun (runs ts).1) (runs ts).2

/-- A flag of a switch sets the switch. -/
theorem readTokens_flag (ha : a.definition.kind = .switch) (p : Progress) (ts : List Token) :
    readTokens p (flagToken a :: ts) =
      readTokens { p with settings := p.settings.set a (.bool true) } ts := by
  have hruns : runs (flagToken a :: ts) = ([], (flagToken a, (runs ts).1) :: (runs ts).2) := rfl
  have hflag : readFlag (p.takeRun []) (flagToken a) (runs ts).1 =
      .ok (.run ({ p with settings := p.settings.set a (.bool true) }.takeRun (runs ts).1)) := by
    unfold readFlag flagToken
    dsimp only
    rw [ha]
    rfl
  rw [readTokens, hruns, readFlags, hflag]
  rfl

theorem readTokens_flags (hasked : ∀ a ∈ asked, a.definition.kind = .switch) (p : Progress)
    (ts : List Token) : readTokens p (asked.map flagToken ++ ts) =
      readTokens { p with settings := p.settings.switchedOn asked } ts := by
  induction asked generalizing p with
  | nil => rfl
  | cons a asked ih =>
      obtain ⟨ha, hasked⟩ := List.forall_mem_cons.1 hasked
      rw [List.map_cons, List.cons_append, readTokens_flag ha, ih hasked]
      rfl

theorem runs_append (hrun : ∀ t ∈ run, t.text?.isSome = true) (ts : List Token) :
    runs (run ++ ts) = (run ++ (runs ts).1, (runs ts).2) := by
  induction run with
  | nil => rfl
  | cons t run ih =>
      obtain ⟨ht, hrun⟩ := List.forall_mem_cons.1 hrun
      rw [List.cons_append, runs, ih hrun]
      exact if_pos ht

/-- A run is taken as a whole if no other text follows. -/
theorem readTokens_run (hrun : ∀ t ∈ run, t.text?.isSome = true) (hts : (runs ts).1 = [])
    (p : Progress) : readTokens p (run ++ ts) = readTokens (p.takeRun run) ts := by
  unfold readTokens
  rw [runs_append hrun, hts, List.append_nil]
  rfl

theorem runs_flags (asked : List Attribute) : (runs (asked.map flagToken)).1 = [] := by
  cases asked with
  | nil => rfl
  | cons a asked => rfl

theorem read_eq (args : List String) : Arguments.read args = (do
    match ← readTokens {} (tokens args) with
    | .help => return .help
    | .run p =>
      if p.others.isEmpty then
        return .run (p.settings.set .files (textList (p.files.getD [])))
      else throw (.unknown p.others)) := rfl

theorem filterMap_text_plain (names : List String) :
    (names.map Token.plain).filterMap Token.text? = names := by
  induction names with
  | nil => rfl
  | cons name names ih => exact congrArg (name :: ·) ih

theorem takeRun_plain {p : Progress} (hp : p.files = none) (hne : names ≠ [])
    (hnames : "--" ∉ names) : p.takeRun (names.map .plain) = { p with files := some names } := by
  unfold Progress.takeRun
  rw [filterMap_text_plain, hp, if_neg (by simpa using hne), List.erase_of_not_mem hnames]

/-- The marker is not one of the names. -/
theorem takeRun_marker {p : Progress} (hp : p.files = none) :
    p.takeRun (.marker :: names.map .plain) = { p with files := some names } := by
  have htexts : (Token.marker :: names.map Token.plain).filterMap Token.text? = "--" :: names :=
    congrArg ("--" :: ·) (filterMap_text_plain names)
  unfold Progress.takeRun
  rw [htexts, hp, if_neg (by simp), List.erase_cons_head]

theorem isSome_text_plain (names : List String) :
    ∀ t ∈ names.map Token.plain, t.text?.isSome = true :=
  List.forall_mem_map.2 fun _ _ => rfl

theorem readTokens_nil (p : Progress) : readTokens p [] = .ok (.run p) := rfl

/-- A command line of files and switches sets these files and switches. -/
theorem read_of_asks {args : List String} (h : Asks names asked args) (hne : names ≠ [])
    (hasked : ∀ a ∈ asked, a.definition.kind = .switch) :
    Arguments.read args = .ok (.run (.asking names asked)) := by
  have hread : readTokens {} (tokens args) =
      .ok (.run { settings := Settings.initial.switchedOn asked, files := some names }) := by
    cases h with
    | between front back hnames =>
        obtain ⟨hfront, hback⟩ := List.forall_mem_append.1 hasked
        have hmarker : "--" ∉ names := fun hmem => hnames _ hmem rfl
        have htokens : tokens (back.map Attribute.flag) = back.map flagToken := by
          have hflags := tokens_flags hback []
          rwa [List.append_nil, tokens, List.append_nil] at hflags
        rw [tokens_flags hfront, readTokens_flags hfront, tokens_names hnames, htokens,
          readTokens_run (isSome_text_plain names) (runs_flags back), takeRun_plain rfl hne hmarker,
          ← List.append_nil (back.map flagToken), readTokens_flags hback, readTokens_nil,
          Settings.switchedOn_append]
    | marked =>
        have hrun : ∀ t ∈ Token.marker :: names.map Token.plain, t.text?.isSome = true :=
          List.forall_mem_cons.2 ⟨rfl, isSome_text_plain names⟩
        rw [tokens_flags hasked, readTokens_flags hasked, tokens_marker,
          ← List.append_nil (Token.marker :: _), readTokens_run hrun rfl, takeRun_marker rfl,
          readTokens_nil]
  rw [read_eq, hread]
  rfl

end Arguments
end StorageUpgrade
