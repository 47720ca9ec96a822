import StorageUpgrade.Shell.Settings

/-!
# Names of layouts and of configurations

The extension of a layout is looked for at the end of its name, in small letters, and the extension
of a configuration in the last name of its path.  No name has both (`isConf_of_json`): the last
letter of the one is no last letter of the other, and behind the last name of a path there are only
slashes and dots.
-/

namespace StorageUpgrade

variable {c : Char} {cs : List Char} {name : String}

/-! ### The last character -/

theorem exists_lowerFrom_concat (inWord : Bool) (cs : List Char) (c : Char) :
    ∃ front final, lowerFrom inWord (cs ++ [c]) = front ++ lowerChar final c := by
  induction cs generalizing inWord with
  | nil => exact ⟨[], inWord && true, List.append_nil _⟩
  | cons d cs ih =>
      obtain ⟨front, final, hfront⟩ := ih (isCased d)
      rw [List.cons_append, lowerFrom.eq_def]
      dsimp only
      rw [hfront, ← List.append_assoc]
      exact ⟨_, final, rfl⟩

/-- The last piece of a text stands at its end; if it is empty, then a separator stands there. -/
theorem exists_splitWhere_concat (separates : Char → Bool) (cs : List Char) :
    ∃ pieces last, splitWhere separates cs = pieces ++ [last] ∧ last <:+ cs ∧
      (pieces = [] → last = cs) ∧ (last = [] → ∀ c ∈ cs.getLast?, separates c = true) := by
  induction cs with
  | nil => exact ⟨[], [], rfl, List.suffix_rfl, fun _ => rfl, by simp⟩
  | cons d cs ih =>
      obtain ⟨pieces, last, hsplit, hsuffix, hwhole, hempty⟩ := ih
      have hcons : last <:+ d :: cs := hsuffix.trans (List.suffix_cons d cs)
      cases hd : separates d with
      | true =>
          refine ⟨[] :: pieces, last, ?_, hcons, by simp, fun hlast c hc => ?_⟩
          · rw [splitWhere, if_pos hd, hsplit, List.cons_append]
          · cases cs with
            | nil =>
                cases hc
                exact hd
            | cons e cs => exact hempty hlast c hc
      | false =>
          cases pieces with
          | nil =>
              obtain rfl := hwhole rfl
              refine ⟨[], d :: last, ?_, List.suffix_rfl, fun _ => rfl, by simp⟩
              rw [splitWhere, if_neg (by simp [hd]), hsplit]
              rfl
          | cons piece pieces =>
              refine ⟨(d :: piece) :: pieces, last, ?_, hcons, by simp, fun hlast c hc => ?_⟩
              · rw [splitWhere, if_neg (by simp [hd]), hsplit]
                rfl
              · cases cs with
                | nil => exact absurd (congrArg List.length hsplit) (by simp [splitWhere])
                | cons e cs => exact hempty hlast c hc

theorem getLast?_of_suffix {last : List Char} (h : last <:+ cs) (hlast : last.getLast? = some c) :
    cs.getLast? = some c := by
  obtain ⟨front, rfl⟩ := h
  rw [List.getLast?_append, hlast, Option.some_or]

/-! ### Extensions -/

theorem getLast?_of_extensionOf (h : Path.extensionOf name = Path.confExtension) :
    name.toList.getLast? = some 'f' := by
  unfold Path.extensionOf at h
  dsimp only at h
  split at h
  · exact absurd h (by decide)
  · have hchars := congrArg String.toList h
    rw [String.toList_ofList] at hchars
    have hback : name.toList.reverse.takeWhile (· != '.') = ['f', 'n', 'o', 'c'] :=
      List.reverse_eq_iff.1 (List.cons.inj hchars).2
    obtain ⟨rest, hrest⟩ : ['f', 'n', 'o', 'c'] <+: name.toList.reverse :=
      hback ▸ List.takeWhile_prefix _
    rw [← List.head?_reverse, ← hrest]
    rfl

/-- The text of the path of a configuration ends as the extension does, or with what a path leaves
out. -/
theorem getLast?_of_isConf (h : Path.isConf name = true) :
    ∃ c ∈ ['f', '/', '.'], name.toList.getLast? = some c := by
  obtain ⟨pieces, last, hsplit, hsuffix, hwhole, hempty⟩ :=
    exists_splitWhere_concat (· == '/') name.toList
  have hnames : (Path.ofText name).names =
      ((pieces.map String.ofList).filter fun n => n != "" && n != ".") ++
        [String.ofList last].filter fun n => n != "" && n != "." := by
    unfold Path.ofText splitAt
    rw [hsplit, List.map_append, List.filter_append]
    rfl
  have hname : Path.extensionOf (Path.ofText name).name = Path.confExtension := eq_of_beq h
  by_cases hdrop : last = [] ∨ last = ['.']
  · rcases hdrop with rfl | rfl
    · cases hlast : name.toList.getLast? with
      | none =>
          rw [List.getLast?_eq_none_iff, String.toList_eq_nil_iff] at hlast
          rw [hlast] at h
          exact absurd h (by decide)
      | some c =>
          obtain rfl : c = '/' := eq_of_beq (hempty rfl c hlast)
          exact ⟨'/', by decide, rfl⟩
    · exact ⟨'.', by decide, getLast?_of_suffix hsuffix rfl⟩
  · have hkept : (String.ofList last != "" && String.ofList last != ".") = true := by
      obtain ⟨hnil, hdot⟩ := not_or.1 hdrop
      have hdot' : String.ofList last ≠ "." := fun heq => hdot (String.ofList_injective heq)
      have hnil' : String.ofList last ≠ "" := fun heq => hnil (String.ofList_injective heq)
      simp [hdot', hnil']
    have hlast : (Path.ofText name).name = String.ofList last := by
      unfold Path.name
      rw [hnames, List.filter_cons, if_pos hkept, List.filter_nil, List.getLast?_concat]
      rfl
    refine ⟨'f', by decide, getLast?_of_suffix hsuffix ?_⟩
    rw [hlast] at hname
    have hf := getLast?_of_extensionOf hname
    rwa [String.toList_ofList] at hf

theorem isSuffixOf_of_json (h : (Extensions.one Path.jsonExtension).allow name = true) :
    Path.jsonExtension.toList.isSuffixOf (lowerCase name).toList = true := by
  have hne : Path.jsonExtension ≠ "" := by decide
  simpa [Extensions.allow, Extensions.isAny, Extensions.toList, hne] using h

theorem inputExtensions_of_json (h : (Extensions.one Path.jsonExtension).allow name = true) :
    inputExtensions.allow name = true := by
  have hsuffix := isSuffixOf_of_json h
  simp [inputExtensions, Extensions.allow, Extensions.toList, hsuffix]

/-- The name of a layout is not the path of a configuration. -/
theorem isConf_of_json (h : (Extensions.one Path.jsonExtension).allow name = true) :
    Path.isConf name = false := by
  cases hconf : Path.isConf name with
  | false => rfl
  | true =>
      obtain ⟨c, hc, hlast⟩ := getLast?_of_isConf hconf
      obtain ⟨cs, hcs⟩ := List.getLast?_eq_some_iff.1 hlast
      obtain ⟨front, final, hlower⟩ := exists_lowerFrom_concat false cs c
      have hsuffix : Path.jsonExtension.toList <:+ front ++ lowerChar final c := by
        have hname := isSuffixOf_of_json h
        rwa [List.isSuffixOf_iff_suffix, lowerCase, String.toList_ofList, hcs, hlower] at hname
      have hn : (front ++ lowerChar final c).getLast? = some 'n' :=
        getLast?_of_suffix hsuffix rfl
      have hsame : lowerChar final c = [c] ∧ c ≠ 'n' := by
        simp only [List.mem_cons, List.not_mem_nil, or_false] at hc
        rcases hc with rfl | rfl | rfl <;> cases final <;> decide
      rw [hsame.1, List.getLast?_concat] at hn
      exact absurd (Option.some.inj hn) hsame.2

end StorageUpgrade
