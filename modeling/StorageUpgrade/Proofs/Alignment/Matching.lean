import StorageUpgrade.Proofs.Alignment.Path

/-!
# The matching of an alignment

An alignment that removes nothing gives every element of the first sequence a partner in the second.
Partners come in the order of the elements, the changes are those of partners that differ, and an
element of the second sequence that is nobody's partner is inserted, or appended when it stands
behind all partners.
-/

namespace StorageUpgrade.Alignment

variable {α β γ : Type} {change : α → β → Option γ} {xs : List α} {ys : List β}

/-- `partner` gives the place of the partner of each element, as some operations have it. -/
structure Matches (change : α → β → Option γ) (xs : List α) (ys : List β) (ops : List (Op α β γ))
    (partner : Nat → Nat) : Prop where
  increasing : ∀ ⦃i j : Nat⦄, i < j → j < xs.length → partner i < partner j
  meets : ∀ ⦃i : Nat⦄ ⦃x : α⦄, xs[i]? = some x →
    ∃ y, ys[partner i]? = some y ∧ ∀ c, change x y = some c → Op.change c ∈ ops
  changes : ∀ ⦃c : γ⦄, Op.change c ∈ ops →
    ∃ i x y, xs[i]? = some x ∧ ys[partner i]? = some y ∧ change x y = some c
  others : ∀ ⦃j : Nat⦄ ⦃y : β⦄, ys[j]? = some y →
    (∃ i < xs.length, partner i = j) ∨ Op.insert y ∈ ops ∨
      Op.append y ∈ ops ∧ ∀ i < xs.length, partner i < j

theorem Matches.partner_lt {ops : List (Op α β γ)} {partner : Nat → Nat}
    (h : Matches change xs ys ops partner) {i : Nat} (hi : i < xs.length) :
    partner i < ys.length := by
  obtain ⟨y, hy, -⟩ := h.meets (List.getElem?_eq_getElem hi)
  exact (List.getElem?_eq_some_iff.1 hy).1

theorem Path.append_not_mem_ops (y : β) (p : Path xs ys) : Op.append y ∉ p.ops change false := by
  induction p with
  | start => exact List.not_mem_nil
  | add z p ih => simp [Path.ops, ih]
  | remove x p ih => simp [Path.ops, ih]
  | meet x z p ih => simp [Path.ops, ih]

/-- A change is one of an element of the first sequence to one of the second. -/
theorem Path.exists_of_change_mem_ops {c : γ} (p : Path xs ys) {last : Bool}
    (hc : Op.change c ∈ p.ops change last) : ∃ x ∈ xs, ∃ y ∈ ys, change x y = some c := by
  induction p generalizing last with
  | start => cases hc
  | add z p ih =>
      have hc : Op.change c ∈ p.ops change last := by
        cases last <;> simpa [Path.ops] using hc
      obtain ⟨x, hx, y, hy, hxy⟩ := ih hc
      exact ⟨x, hx, y, List.mem_cons_of_mem _ hy, hxy⟩
  | remove z p ih =>
      obtain ⟨x, hx, y, hy, hxy⟩ := ih (by simpa [Path.ops] using hc)
      exact ⟨x, List.mem_cons_of_mem _ hx, y, hy, hxy⟩
  | meet x y p ih =>
      rcases List.mem_append.1 hc with hc | hc
      · exact ⟨x, List.mem_cons_self, y, List.mem_cons_self, by simpa using hc⟩
      · obtain ⟨z, hz, w, hw, hzw⟩ := ih hc
        exact ⟨z, List.mem_cons_of_mem _ hz, w, List.mem_cons_of_mem _ hw, hzw⟩

theorem Matches.start (partner : Nat → Nat) : Matches change [] [] [] partner where
  increasing i j _ hj := by simp at hj
  meets i x hx := by simp at hx
  changes c hc := by simp at hc
  others j y hy := by simp at hy

/-- An element behind the second sequence has no partner. -/
theorem Matches.add {ops : List (Op α β γ)} {partner : Nat → Nat}
    (h : Matches change xs ys ops partner) (last : Bool) (y : β) :
    Matches change xs (ys ++ [y]) ((if last then .append y else .insert y) :: ops) partner where
  increasing := h.increasing
  meets i x hx := by
    obtain ⟨z, hz, hop⟩ := h.meets hx
    have hlt := h.partner_lt (List.getElem?_eq_some_iff.1 hx).1
    exact ⟨z, by rw [List.getElem?_append_left hlt, hz],
      fun c hc => List.mem_cons_of_mem _ (hop c hc)⟩
  changes c hc := by
    have hc : Op.change c ∈ ops := by
      rcases List.mem_cons.1 hc with hc | hc
      · split at hc <;> cases hc
      · exact hc
    obtain ⟨i, x, z, hx, hz, hchange⟩ := h.changes hc
    have hlt := (List.getElem?_eq_some_iff.1 hz).1
    exact ⟨i, x, z, hx, by rw [List.getElem?_append_left hlt, hz], hchange⟩
  others j z hz := by
    rcases Nat.lt_or_ge j ys.length with hj | hj
    · rw [List.getElem?_append_left hj] at hz
      rcases h.others hz with hpartner | hinsert | ⟨happend, hbehind⟩
      · exact .inl hpartner
      · exact .inr (.inl (List.mem_cons_of_mem _ hinsert))
      · exact .inr (.inr ⟨List.mem_cons_of_mem _ happend, hbehind⟩)
    · rw [List.getElem?_append_right hj] at hz
      obtain ⟨_, hz⟩ := List.getElem?_eq_some_iff.1 hz
      obtain rfl : y = z := by simpa using hz
      cases last with
      | false => exact .inr (.inl List.mem_cons_self)
      | true =>
          exact .inr (.inr ⟨List.mem_cons_self, fun i hi =>
            Nat.lt_of_lt_of_le (h.partner_lt hi) hj⟩)

/-- The last elements of the two sequences are partners. -/
theorem Matches.meet {ops : List (Op α β γ)} {partner : Nat → Nat}
    (h : Matches change xs ys ops partner) (hops : ∀ y, Op.append y ∉ ops) (x : α) (y : β) :
    Matches change (xs ++ [x]) (ys ++ [y]) (((change x y).map Op.change).toList ++ ops)
      (fun i => if i = xs.length then ys.length else partner i) where
  increasing i j hij hj := by
    have hi : i < xs.length := by
      rw [List.length_append, List.length_singleton] at hj
      omega
    rw [if_neg (Nat.ne_of_lt hi)]
    split
    · exact h.partner_lt hi
    · rw [List.length_append, List.length_singleton] at hj
      exact h.increasing hij (by omega)
  meets i z hz := by
    rcases Nat.lt_or_ge i xs.length with hi | hi
    · rw [List.getElem?_append_left hi] at hz
      obtain ⟨w, hw, hop⟩ := h.meets hz
      rw [if_neg (Nat.ne_of_lt hi), List.getElem?_append_left (h.partner_lt hi)]
      exact ⟨w, hw, fun c hc => List.mem_append_right _ (hop c hc)⟩
    · rw [List.getElem?_append_right hi] at hz
      obtain ⟨hlt, hz⟩ := List.getElem?_eq_some_iff.1 hz
      obtain rfl : x = z := by simpa using hz
      have hlast : i = xs.length := by
        rw [List.length_singleton] at hlt
        omega
      rw [if_pos hlast]
      refine ⟨y, by simp, fun c hc => List.mem_append_left _ ?_⟩
      simp [hc]
  changes c hc := by
    rcases List.mem_append.1 hc with hc | hc
    · refine ⟨xs.length, x, y, by simp, by simp, ?_⟩
      simpa using hc
    · obtain ⟨i, z, w, hz, hw, hchange⟩ := h.changes hc
      have hi := (List.getElem?_eq_some_iff.1 hz).1
      have hlt := (List.getElem?_eq_some_iff.1 hw).1
      refine ⟨i, z, w, by rw [List.getElem?_append_left hi, hz], ?_, hchange⟩
      rw [if_neg (Nat.ne_of_lt hi), List.getElem?_append_left hlt, hw]
  others j z hz := by
    rcases Nat.lt_or_ge j ys.length with hj | hj
    · rw [List.getElem?_append_left hj] at hz
      rcases h.others hz with ⟨i, hi, hpartner⟩ | hinsert | ⟨happend, -⟩
      · refine .inl ⟨i, by simp; omega, ?_⟩
        rw [if_neg (Nat.ne_of_lt hi), hpartner]
      · exact .inr (.inl (List.mem_append_right _ hinsert))
      · -- an element that is appended would stand behind the meeting
        exact absurd happend (hops z)
    · have hlt := (List.getElem?_eq_some_iff.1 hz).1
      rw [List.length_append, List.length_singleton] at hlt
      exact .inl ⟨xs.length, by simp, by rw [if_pos rfl]; omega⟩

/-- A path that removes nothing gives every element of the first sequence a partner. -/
theorem Path.exists_matches (last : Bool) (p : Path xs ys)
    (hkeep : ∀ x, Op.delete x ∉ p.ops change last) :
    ∃ partner, Matches change xs.reverse ys.reverse (p.ops change last) partner := by
  induction p generalizing last with
  | start => exact ⟨id, .start _⟩
  | add y p ih =>
      obtain ⟨partner, h⟩ := ih last fun x hx => hkeep x (List.mem_cons_of_mem _ hx)
      rw [List.reverse_cons]
      exact ⟨partner, h.add last y⟩
  | remove x p ih => exact absurd List.mem_cons_self (hkeep x)
  | meet x y p ih =>
      obtain ⟨partner, h⟩ := ih false fun z hz => hkeep z (List.mem_append_right _ hz)
      rw [List.reverse_cons, List.reverse_cons]
      exact ⟨_, h.meet (fun z => p.append_not_mem_ops z) x y⟩

end StorageUpgrade.Alignment
