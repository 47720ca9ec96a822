import StorageUpgrade.Proofs.Layout.Demands
import StorageUpgrade.Proofs.Shell.Agreement
import StorageUpgrade.Standard

/-!
# Files that hold no layout

A file whose text is no document, or a document that is no layout, is a problem of the user's
input, with three exceptions: where lists and objects are nested too deeply, where an object is
needed and there is none, and where an offset is infinite.  These are errors that a run does not
explain.  A problem of the user's input ends the run with an exit code, if the terminal takes the
message that says so (`readLayout_cases`).

## Strategy

* What the first demand is that a document does not meet decides what becomes of it
  (`Layout.asks_ofJson`), and which demand it is tells whether the error is explained
  (`isDefect_of_problem?`).
* Reading a file gives the same from every session, so it is enough to see how a run comes to
  read it (`outcome_run_of_compares`).
-/

namespace StorageUpgrade

/-- Whether it is a problem of the user's input that a demand is not met. -/
def Demand.isExplained : Demand → Bool
  | object _ | number (.real (.infinite _)) => false
  | _ => true

namespace Shell

open SessionM

theorem isDefect_of_problem? {demand : Demand} {m : Json.Misuse}
    (h : demand.problem? = some m) : isDefect m = demand.isExplained := by
  cases demand with
  | object v | elements v => cases v <;> cases h <;> rfl
  | entry v key =>
      replace h : errorOf (v.get key) = some m := h
      cases v with
      | obj es =>
          cases hfind : Json.find? key es with
          | some x => simp [Json.get, hfind, errorOf] at h
          | none =>
              obtain rfl : .missingKey (.str key) = m := by simpa [Json.get, hfind, errorOf] using h
              rfl
      | _ =>
          cases h
          rfl
  | number v =>
      replace h : errorOf v.toInt = some m := h
      cases v with
      | real x => cases x <;> cases h <;> rfl
      | str s =>
          cases hnumeral : Numeral.parse s with
          | ok n => simp [Json.toInt, hnumeral, errorOf] at h
          | error e => cases e <;> simp [Json.toInt, hnumeral, errorOf] at h <;> subst h <;> rfl
      | _ => cases h <;> rfl

/-- What reading a file of a name and a text comes to. -/
inductive ReadsAs (levels : Nat) (name text : String) : Except Error Layout → Prop
  | tooDeep (hparse : Json.parse levels text = .error .tooDeep) :
      ReadsAs levels name text (.error .tooDeep)
  | noDocument {fault : Json.ReadFault} (hparse : Json.parse levels text = .error fault)
      (hfault : fault ≠ .tooDeep) :
      ReadsAs levels name text (.error (.input (.notLayout name (.notJson fault))))
  | layout {d : Json} {l : Layout} (hparse : Json.parse levels text = .ok d)
      (hmet : ∀ demand ∈ Layout.demands d, demand.problem? = none)
      (hlayout : Layout.ofJson d = .ok l) : ReadsAs levels name text (.ok l)
  | explained {d : Json} {demand : Demand} {m : Json.Misuse}
      (hparse : Json.parse levels text = .ok d)
      (hfirst : FirstUnmet Demand.problem? (Layout.demands d) demand m)
      (hexplained : demand.isExplained = true) :
      ReadsAs levels name text (.error (.input (.notLayout name (.misuse m))))
  | passedOn {d : Json} {demand : Demand} {m : Json.Misuse}
      (hparse : Json.parse levels text = .ok d)
      (hfirst : FirstUnmet Demand.problem? (Layout.demands d) demand m)
      (hexplained : demand.isExplained = false) : ReadsAs levels name text (.error (.misuse m))

variable {platform : Platform} {files : Files} {colors : Bool} {args : List String}
  {name text old updated : String} {readable : Bool} {levels : Nat}

/-- The layout that a text of a file holds, or why it holds none. -/
def layoutOfText (levels : Nat) (name text : String) : Except Error Layout :=
  match Json.parse levels text with
  | .error fault => .error (fault.toError fun fault => .notLayout name (.notJson fault))
  | .ok document => match Layout.ofJson document with
    | .ok layout => .ok layout
    | .error misuse =>
      if isDefect misuse then .error (.input (.notLayout name (.misuse misuse)))
      else .error (.misuse misuse)

theorem readsAs_layoutOfText (levels : Nat) (name text : String) :
    ReadsAs levels name text (layoutOfText levels name text) := by
  unfold layoutOfText
  cases hparse : Json.parse levels text with
  | error fault =>
      cases fault with
      | tooDeep => exact .tooDeep hparse
      | malformed | tooLong _ => exact .noDocument hparse nofun
  | ok document =>
      rcases (Layout.asks_ofJson document).cases with
        ⟨layout, hlayout, hmet⟩ | ⟨demand, misuse, hmisuse, hfirst⟩
      · dsimp only
        rw [hlayout]
        exact .layout hparse hmet hlayout
      · have hdefect : isDefect misuse = demand.isExplained := by
          obtain ⟨front, back, -, -, hproblem⟩ := hfirst
          exact isDefect_of_problem? hproblem
        dsimp only
        rw [hmisuse]
        dsimp only
        split
        · rename_i hyes
          exact .explained hparse hfirst (hdefect.symm.trans hyes)
        · rename_i hno
          exact .passedOn hparse hfirst (hdefect.symm.trans (Bool.eq_false_iff.2 hno))

/-- A file is read in the same way from every session. -/
theorem result_readLayout (hfile : files name = .file text readable) (s : Session) :
    (outcome (readLayout platform files name) s).1 = layoutOfText platform.levels name text := by
  have hsay : outcome (say "file" Log.debug ("Reading " ++ (Path.ofText name).text)) s =
      (.ok (), _) := outcome_record _ s
  have htext (t : Session) : outcome (readFile files name) t = (.ok text, t) := by
    unfold readFile
    rw [hfile]
    rfl
  unfold readLayout layoutOfText
  rw [outcome_bind_of_ok _ hsay, hfile]
  dsimp only
  rw [if_neg Bool.false_ne_true, outcome_bind_of_ok _ (htext _)]
  cases Json.parse platform.levels text with
  | error fault => rfl
  | ok document =>
      cases hlayout : Layout.ofJson document with
      | ok layout => simp [hlayout]
      | error misuse =>
          simp only [hlayout]
          split
          · rfl
          · rfl

/-- A name leads to a file that is read as a layout. -/
def HoldsLayout (levels : Nat) (files : Files) (name : String) : Prop :=
  ∃ text readable l, files name = .file text readable ∧ ReadsAs levels name text (.ok l)

theorem HoldsLayout.exists_result (h : HoldsLayout platform.levels files name) :
    ∃ l, ∀ s, (outcome (readLayout platform files name) s).1 = .ok l := by
  obtain ⟨text, readable, l, hfile, hreads⟩ := h
  refine ⟨l, fun s => (result_readLayout hfile s).trans ?_⟩
  cases hreads with
  | layout hparse _ hlayout =>
      unfold layoutOfText
      rw [hparse]
      dsimp only
      rw [hlayout]

/-! ### Runs -/

/-- A run comes to compare two files. -/
def Compares (platform : Platform) (files : Files) (args : List String) (old updated : String) :
    Prop :=
  ∃ s t, outcome (readArguments platform files args) {} = (.ok true, s) ∧
    outcome (chooseFiles platform files) { s with view := viewOf s.settings } =
      (.ok (old, updated), t)

theorem outcome_run_of_compares (h : Compares platform files args old updated) (colors : Bool) :
    ∃ t, outcome (run platform files colors args) {} =
      outcome (comparison platform files colors (old, updated)) t := by
  obtain ⟨s, t, hargs, hfiles⟩ := h
  refine ⟨t, ?_⟩
  rw [run_eq, outcome_bind_of_ok _ hargs]
  exact outcome_bind_of_ok _ hfiles

/-- A run on two files with the extension of a layout, and with values that are accepted, comes to
compare them. -/
theorem compares_of_layouts {given : Settings} (hread : Arguments.read args = .ok (.run given))
    (hgiven : given.Accepted) (hnames : given.value .files = Arguments.textList [old, updated])
    (hold : IsLayoutFile files old) (hupdated : IsLayoutFile files updated) :
    Compares platform files args old updated := by
  have hcheck : given.check files true = .ok () :=
    Settings.check_of_accepted hgiven (hnames ▸ check_layouts true hold hupdated)
  refine ⟨{ settings := given }, { settings := given, view := viewOf given }, ?_,
    outcome_chooseFiles hnames hold hupdated⟩
  unfold readArguments
  rw [hread]
  dsimp only
  rw [outcome_bind_of_ok _ (outcome_modify _ _), hcheck]
  rfl

/-- The error of reading either file is the error of the run. -/
theorem result_run_of_error {e : Error} (h : Compares platform files args old updated)
    (hread : (∀ s, (outcome (readLayout platform files old) s).1 = .error e) ∨
      (∀ s, ∃ l, (outcome (readLayout platform files old) s).1 = .ok l) ∧
        ∀ s, (outcome (readLayout platform files updated) s).1 = .error e) (colors : Bool) :
    (outcome (run platform files colors args) {}).1 = .error e := by
  obtain ⟨t, hrun⟩ := outcome_run_of_compares h colors
  rw [hrun]
  unfold comparison
  have hsay : outcome (say "run" Log.debug ("Comparing " ++ old ++ " to " ++ updated)) t =
      (.ok (), _) := outcome_record _ t
  rw [outcome_bind_of_ok _ hsay]
  -- The first layout is read before the second one, so its error comes first.
  rcases hread with hold | ⟨hold, hupdated⟩
  · rw [outcome_bind_of_error _ (Prod.ext (hold _) rfl)]
  · obtain ⟨l, hl⟩ := hold (t.adding _ _)
    rw [outcome_bind_of_ok _ (Prod.ext hl rfl), outcome_bind_of_error _ (Prod.ext (hupdated _) rfl)]

theorem outcome_alert_of_ok {message text : String}
    (h : platform.render (alertMark ++ message) = .ok text) (s : Session) :
    outcome (alert platform message) s = (.ok (), s.adding [] text) := by
  unfold alert display Session.adding
  rw [h, List.append_nil]
  rfl

theorem outcome_alert_of_error {message reason : String}
    (h : platform.render (alertMark ++ message) = .error reason) (s : Session) :
    outcome (alert platform message) s = (.error (.unshown reason), s) := by
  unfold alert display
  rw [h]
  rfl

/-- What a run that ends with an error comes to when it explains its errors: a problem of the user's
input ends it with an exit code, if the terminal takes the message, and what is not explained is
passed on. -/
structure Explains (platform : Platform) (e : Error) (result : Except Error ExitCode) : Prop where
  userError {p : InputProblem} {text : String} (hinput : e = .input p)
    (hrender : platform.render (alertMark ++ noticeOf p) = .ok text) : result = .ok userError
  unshown {p : InputProblem} {reason : String} (hinput : e = .input p)
    (hrender : platform.render (alertMark ++ noticeOf p) = .error reason) :
    result = .error (.unshown reason)
  passedOn (hinput : ∀ p, e ≠ .input p) (hupgrade : ∀ p, e ≠ .upgrade p) : result = .error e

theorem explains_explain (e : Error) (s : Session) :
    Explains platform e (outcome (explain platform e) s).1 where
  userError := by
    rintro p text rfl hrender
    have hnotice (t : Session) := outcome_bind_of_ok (fun _ => pure userError)
      (outcome_alert_of_ok hrender t)
    unfold explain
    dsimp only
    cases p.cause? with
    | none => exact congrArg Prod.fst (hnotice _)
    | some cause => exact congrArg Prod.fst (hnotice _)
  unshown := by
    rintro p reason rfl hrender
    have hnotice (t : Session) := outcome_bind_of_error (fun _ => pure userError)
      (outcome_alert_of_error hrender t)
    unfold explain
    dsimp only
    cases p.cause? with
    | none => exact congrArg Prod.fst (hnotice _)
    | some cause => exact congrArg Prod.fst (hnotice _)
  passedOn hinput hupgrade := by
    cases e with
    | input p => exact absurd rfl (hinput p)
    | upgrade p => exact absurd rfl (hupgrade p)
    | _ => rfl

theorem explains_runExplained {e : Error}
    (h : (outcome (run platform files colors args) {}).1 = .error e) :
    Explains platform e (outcome (runExplained platform files colors args) {}).1 := by
  unfold runExplained
  rw [outcome_tryCatch_of_error (explain platform) (Prod.ext h rfl)]
  exact explains_explain e _

/-- A file is read as a layout, or it is a problem of the user's input that it is none, unless it is
nested too deeply or what it lacks first is an object or a finite number.  A run that reads it ends
with the exit code for such a problem, and it does not explain what else is wrong. -/
theorem readLayout_cases (hfile : files name = .file text readable) :
    ∃ result, ReadsAs platform.levels name text result ∧
      (∀ s, (outcome (readLayout platform files name) s).1 = result) ∧
        ∀ args old updated colors, Compares platform files args old updated →
          name = old ∨ name = updated ∧ HoldsLayout platform.levels files old →
            ∀ e, result = .error e →
              Explains platform e (outcome (runExplained platform files colors args) {}).1 := by
  have hresult (s : Session) : (outcome (readLayout platform files name) s).1 =
      layoutOfText platform.levels name text := result_readLayout hfile s
  refine ⟨layoutOfText platform.levels name text, readsAs_layoutOfText _ name text, hresult, ?_⟩
  intro args old updated colors hcompares hname e he
  have hname' (s : Session) : (outcome (readLayout platform files name) s).1 = .error e :=
    (hresult s).trans he
  refine explains_runExplained (result_run_of_error hcompares ?_ colors)
  rcases hname with rfl | ⟨rfl, hold⟩
  · exact .inl hname'
  · obtain ⟨l, hl⟩ := hold.exists_result
    exact .inr ⟨fun s => ⟨l, hl s⟩, hname'⟩

/-- Two files of one text. -/
def twoFiles (text : String) : Files := fun name =>
  if name = "a.json" ∨ name = "b.json" then .file text true else .nothing

theorem compares_twoFiles (text : String) :
    Compares platform (twoFiles text) ["a.json", "b.json"] "a.json" "b.json" := by
  have hread : Arguments.read ["a.json", "b.json"] = .ok (.run (.asking ["a.json", "b.json"] [])) :=
    Arguments.read_of_asks (.between [] [] (by decide)) (by decide) nofun
  exact compares_of_layouts hread (accepted_asking nofun) rfl ⟨rfl, text, rfl⟩ ⟨rfl, text, rfl⟩

/-- A variable that starts infinitely far behind the start of its slot. -/
def infiniteOffset : String :=
  "\x7b\"storage\": [\x7b\"label\": \"a\", \"type\": \"t_uint256\", \"offset\": 1e999\x7d]\x7d"

/-- A run does not explain that an offset is infinite. -/
theorem readLayout_cases_infiniteOffset :
    ∃ result, ReadsAs Platform.standard.levels "a.json" infiniteOffset result ∧
      result = .error (.misuse .unbounded) ∧
        (outcome (readLayout .standard (twoFiles infiniteOffset) "a.json") {}).1 = result ∧
          (outcome (runExplained .standard (twoFiles infiniteOffset) false ["a.json", "b.json"])
            {}).1 = .error (.misuse .unbounded) := by
  have hfile : twoFiles infiniteOffset "a.json" = .file infiniteOffset true := rfl
  obtain ⟨result, hreads, hresult, hruns⟩ := readLayout_cases hfile
  have hparse : Json.parse Platform.standard.levels infiniteOffset = .ok (.obj [("storage", .arr [.obj
      [("label", .str "a"), ("type", .str "t_uint256"),
        ("offset", .real (.infinite false))]])]) := by
    decide +kernel
  have hunbounded : result = .error (.misuse .unbounded) := by
    rw [← hresult {}, result_readLayout rfl, layoutOfText, hparse]
    rfl
  exact ⟨result, hreads, hunbounded, hresult {},
    (hruns _ _ _ false (compares_twoFiles _) (.inl rfl) _ hunbounded).passedOn nofun nofun⟩

/-- An empty list is a document, and neither a layout nor a problem of the user's input. -/
theorem not_explained_emptyList :
    ¬ ∀ (platform : Platform) (files : Files) (name text : String) (readable : Bool) (s : Session),
      files name = .file text readable →
        (∃ l, (outcome (readLayout platform files name) s).1 = .ok l) ∨
          ∃ p, (outcome (readLayout platform files name) s).1 = .error (.input p) := by
  intro hclaim
  have hparse : Json.parse Platform.standard.levels "[]" = .ok (.arr []) := by decide +kernel
  have hresult : (outcome (readLayout .standard (twoFiles "[]") "a.json") {}).1 =
      .error (.misuse .notObject) := by
    rw [result_readLayout rfl, layoutOfText, hparse]
    rfl
  rcases hclaim .standard (twoFiles "[]") "a.json" "[]" true {} rfl with ⟨l, hl⟩ | ⟨p, hp⟩
  · rw [hresult] at hl
    cases hl
  · rw [hresult] at hp
    cases hp

end Shell
end StorageUpgrade
