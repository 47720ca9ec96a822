import StorageUpgrade.Proofs.Alignment.Free
import StorageUpgrade.Proofs.Alignment.Matching

/-!
# The earliest free alignment

When one sequence is found in another one at no cost, there may be several ways to find it.  The
table takes the earliest: wherever the first elements are found otherwise, the partners that the
table gives them come no later (`Earliest.earliest`).  It then does nothing but insert the elements
between its partners and append those behind them (`exists_earliest`).

## Strategy

* A way to find the first elements of a sequence (`Embeds`) is a free alignment of them
  (`Embeds.free`).
* The table lets two last elements meet only if the first sequence is not found without the last
  element of the second, so the partner of the last element cannot be earlier (`Earliest.meet`).
* For the elements before it the partners are the earliest ones by induction on the path.
-/

namespace StorageUpgrade.Alignment

variable {α β γ : Type} {change : α → β → Option γ} {own : γ → Option Int} {xs : List α}
  {ys : List β} {n : Nat} {places : Nat → Nat}

/-- `places` finds the first `n` elements of a sequence in another one at no cost, in order. -/
structure Embeds (change : α → β → Option γ) (own : γ → Option Int) (xs : List α) (ys : List β)
    (n : Nat) (places : Nat → Nat) : Prop where
  increasing : ∀ ⦃i j : Nat⦄, i < j → j < n → places i < places j
  meets : ∀ ⦃i : Nat⦄, i < n →
    ∃ x y, xs[i]? = some x ∧ ys[places i]? = some y ∧ price own (change x y) = 0

namespace Embeds

theorem le_length (h : Embeds change own xs ys n places) : n ≤ xs.length := by
  apply Nat.le_of_not_lt
  intro hlong
  obtain ⟨x, -, hx, -⟩ := h.meets hlong
  rw [List.getElem?_eq_none (Nat.le_refl _)] at hx
  cases hx

/-- The places of some elements are before the place of a later one. -/
theorem before (h : Embeds change own xs ys n places) {i : Nat} (hi : i < n) {front back : List β}
    (hys : ys = front ++ back) (hplace : places i ≤ front.length) :
    Embeds change own xs front i places where
  increasing _ _ hjk hk := h.increasing hjk (Nat.lt_trans hk hi)
  meets j hj := by
    obtain ⟨x, y, hx, hy, hprice⟩ := h.meets (Nat.lt_trans hj hi)
    have hlt : places j < front.length := Nat.lt_of_lt_of_le (h.increasing hj hi) hplace
    rw [hys, List.getElem?_append_left hlt] at hy
    exact ⟨x, y, hx, hy, hprice⟩

/-- What follows the place of an element does not matter for it and those before it. -/
theorem upto (h : Embeds change own xs ys n places) {i : Nat} (hi : i < n) {front back : List β}
    (hys : ys = front ++ back) (hplace : places i < front.length) :
    Embeds change own xs front (i + 1) places where
  increasing _ _ hjk hk := h.increasing hjk (Nat.lt_of_lt_of_le hk hi)
  meets j hj := by
    obtain ⟨x, y, hx, hy, hprice⟩ := h.meets (Nat.lt_of_lt_of_le hj hi)
    have hlt : places j < front.length := by
      rcases Nat.lt_succ_iff_lt_or_eq.1 hj with hj | rfl
      · exact Nat.lt_trans (h.increasing hj hi) hplace
      · exact hplace
    rw [hys, List.getElem?_append_left hlt] at hy
    exact ⟨x, y, hx, hy, hprice⟩

theorem of_concat {x : α} (h : Embeds change own (xs ++ [x]) ys n places) (hn : n ≤ xs.length) :
    Embeds change own xs ys n places where
  increasing := h.increasing
  meets i hi := by
    obtain ⟨z, y, hz, hy, hprice⟩ := h.meets hi
    rw [List.getElem?_append_left (Nat.lt_of_lt_of_le hi hn)] at hz
    exact ⟨z, y, hz, hy, hprice⟩

/-- A sequence that is found in another one is aligned with it freely. -/
theorem free (h : Embeds change own xs.reverse ys.reverse xs.length places) :
    Free change own xs ys := by
  induction xs generalizing ys with
  | nil =>
      have hnil : Free change own ([] : List α) ([] : List β) := .start
      simpa using hnil.addAll ys
  | cons x xs ih =>
      have hlast : xs.length < (x :: xs).length := Nat.lt_succ_self _
      obtain ⟨z, y, hz, hy, hprice⟩ := h.meets hlast
      obtain rfl : x = z := by simpa [List.reverse_cons] using hz
      -- the last element meets `y`, and the others are found in front of it
      obtain ⟨hlt, hy⟩ := List.getElem?_eq_some_iff.1 hy
      let front := ys.reverse.take (places xs.length)
      let back := ys.reverse.drop (places xs.length + 1)
      have hsplit : ys.reverse = front ++ y :: back := by
        rw [← hy, ← List.drop_eq_getElem_cons hlt, List.take_append_drop]
      have hfront : front.length = places xs.length :=
        List.length_take_of_le (Nat.le_of_lt hlt)
      have hbefore := h.before hlast hsplit (Nat.le_of_eq hfront.symm)
      have hxs : Embeds change own xs.reverse front.reverse.reverse xs.length places := by
        rw [List.reverse_reverse]
        rw [List.reverse_cons] at hbefore
        exact hbefore.of_concat (Nat.le_of_eq List.length_reverse.symm)
      have hys : ys = back.reverse ++ y :: front.reverse := by
        rw [← List.reverse_reverse ys, hsplit]
        simp
      rw [hys]
      exact (Free.meet x y hprice (ih hxs)).addAll back.reverse

end Embeds

/-! ### The partners of the table -/

/-- `partner` gives the places of the earliest partners: they cost nothing, and no other way to find
the first elements has earlier ones.  The operations are the changes of partners, the insertions of
what stands between them, and what is appended behind them; where elements are left behind the two
sequences, nothing is appended. -/
structure Earliest (change : α → β → Option γ) (own : γ → Option Int) (xs : List α) (ys : List β)
    (ops : List (Op α β γ)) (last : Bool) (partner : Nat → Nat) : Prop
    extends Matches change xs ys ops partner where
  free : ∀ ⦃i : Nat⦄ ⦃x : α⦄ ⦃y : β⦄, xs[i]? = some x → ys[partner i]? = some y →
    price own (change x y) = 0
  deletes : ∀ x, Op.delete x ∉ ops
  inserts : ∀ ⦃y : β⦄, Op.insert y ∈ ops → ∃ j, ys[j]? = some y ∧
    (∀ i < xs.length, partner i ≠ j) ∧ (last = true → ∃ i < xs.length, j < partner i)
  appends : ∀ ⦃y : β⦄, Op.append y ∈ ops → ∃ j, ys[j]? = some y ∧ ∀ i < xs.length, partner i < j
  earliest : ∀ ⦃n : Nat⦄ ⦃places : Nat → Nat⦄, Embeds change own xs ys n places →
    ∀ i < n, partner i ≤ places i

theorem Earliest.start (last : Bool) (partner : Nat → Nat) :
    Earliest change own [] [] [] last partner where
  toMatches := .start partner
  free i x y hx := by simp at hx
  deletes x := List.not_mem_nil
  inserts y hy := by cases hy
  appends y hy := by cases hy
  earliest n places h i hi := absurd (Nat.lt_of_lt_of_le hi h.le_length) (Nat.not_lt_zero i)

section

variable {ops : List (Op α β γ)} {last : Bool} {partner : Nat → Nat}

theorem getElem?_concat_of_lt {i : Nat} {y z : β} (hz : (ys ++ [y])[i]? = some z)
    (hi : i < ys.length) : ys[i]? = some z := by
  rwa [List.getElem?_append_left hi] at hz

/-- Where a last element is added, the earliest partners stay the same. -/
theorem Earliest.add (h : Earliest change own xs ys ops last partner) (y : β) :
    Earliest change own xs (ys ++ [y]) ((if last then .append y else .insert y) :: ops) last
      partner where
  toMatches := h.toMatches.add last y
  free i x z hx hz := by
    have hi := h.partner_lt (List.getElem?_eq_some_iff.1 hx).1
    exact h.free hx (getElem?_concat_of_lt hz hi)
  deletes x hx := by
    rcases List.mem_cons.1 hx with hx | hx
    · cases last <;> cases hx
    · exact h.deletes x hx
  inserts z hz := by
    rcases List.mem_cons.1 hz with hz | hz
    · cases last with
      | true => cases hz
      | false =>
          cases hz
          refine ⟨ys.length, by simp, ?_, nofun⟩
          exact fun i hi => Nat.ne_of_lt (h.partner_lt hi)
    · obtain ⟨j, hj, hnot, hbefore⟩ := h.inserts hz
      have hlt := (List.getElem?_eq_some_iff.1 hj).1
      exact ⟨j, by rw [List.getElem?_append_left hlt, hj], hnot, hbefore⟩
  appends z hz := by
    rcases List.mem_cons.1 hz with hz | hz
    · cases last with
      | false => cases hz
      | true =>
          cases hz
          exact ⟨ys.length, by simp, fun i hi => h.partner_lt hi⟩
    · obtain ⟨j, hj, hbehind⟩ := h.appends hz
      have hlt := (List.getElem?_eq_some_iff.1 hj).1
      exact ⟨j, by rw [List.getElem?_append_left hlt, hj], hbehind⟩
  earliest n places hembeds i hi := by
    rcases Nat.lt_or_ge (places i) ys.length with hplace | hplace
    · exact h.earliest (hembeds.upto hi rfl hplace) i (Nat.lt_succ_self i)
    · have hlt := h.partner_lt (Nat.lt_of_lt_of_le hi hembeds.le_length)
      omega

/-- Where two last elements meet, they are the earliest partners if the first sequence cannot be
found without the last element of the second. -/
theorem Earliest.meet (h : Earliest change own xs ys ops false partner)
    (hops : ∀ y, Op.append y ∉ ops) {x : α} {y : β} (hprice : price own (change x y) = 0)
    (hlate : ∀ places, ¬ Embeds change own (xs ++ [x]) ys (xs.length + 1) places) :
    Earliest change own (xs ++ [x]) (ys ++ [y]) (((change x y).map Op.change).toList ++ ops) last
      (fun i => if i = xs.length then ys.length else partner i) where
  toMatches := h.toMatches.meet hops x y
  free i z w hz hw := by
    rcases Nat.lt_or_ge i xs.length with hi | hi
    · rw [if_neg (Nat.ne_of_lt hi)] at hw
      exact h.free (getElem?_concat_of_lt hz hi) (getElem?_concat_of_lt hw (h.partner_lt hi))
    · have hlt := (List.getElem?_eq_some_iff.1 hz).1
      rw [List.length_append, List.length_singleton] at hlt
      obtain rfl : i = xs.length := by omega
      rw [if_pos rfl] at hw
      obtain rfl : x = z := by simpa using hz
      obtain rfl : y = w := by simpa using hw
      exact hprice
  deletes z hz := by
    rcases List.mem_append.1 hz with hz | hz
    · simp at hz
    · exact h.deletes z hz
  inserts z hz := by
    rcases List.mem_append.1 hz with hz | hz
    · simp at hz
    · obtain ⟨j, hj, hnot, -⟩ := h.inserts hz
      have hlt := (List.getElem?_eq_some_iff.1 hj).1
      refine ⟨j, by rw [List.getElem?_append_left hlt, hj], ?_, fun _ => ?_⟩
      · intro i hi
        rw [List.length_append, List.length_singleton] at hi
        split
        · omega
        · exact hnot i (by omega)
      · exact ⟨xs.length, by simp, by rw [if_pos rfl]; exact hlt⟩
  appends z hz := by
    rcases List.mem_append.1 hz with hz | hz
    · simp at hz
    · exact absurd hz (hops z)
  earliest n places hembeds i hi := by
    have hle := hembeds.le_length
    rw [List.length_append, List.length_singleton] at hle
    split
    · rename_i hlast
      apply Nat.le_of_not_lt
      intro hplace
      rw [← hlast] at hlate
      exact hlate places (hembeds.upto hi rfl hplace)
    · rename_i hnot
      have hi' : i < xs.length := by omega
      rcases Nat.lt_or_ge (places i) ys.length with hplace | hplace
      · exact h.earliest ((hembeds.upto hi rfl hplace).of_concat hi') i (Nat.lt_succ_self i)
      · have hlt := h.partner_lt hi'
        omega

end

/-- If the first sequence is found in the second at no cost, then the table finds the earliest
partners. -/
theorem exists_earliest (hprices : ∀ x y, 0 ≤ price own (change x y)) (last : Bool)
    (h : Free change own xs ys) :
    ∃ partner, Earliest change own xs.reverse ys.reverse
      ((cheapest change own xs ys).ops change last) last partner := by
  induction ys generalizing xs last with
  | nil =>
      cases h
      refine ⟨id, ?_⟩
      rw [cheapest]
      exact .start last id
  | cons y ys ih =>
      by_cases hfree : Free change own xs ys
      · obtain ⟨partner, hearliest⟩ := ih last hfree
        refine ⟨partner, ?_⟩
        rw [cheapest_cons_of_free hprices y hfree, List.reverse_cons]
        exact hearliest.add y
      · cases h with
        | add _ h => exact absurd h hfree
        | @meet xs _ x _ hprice h =>
            obtain ⟨partner, hearliest⟩ := ih false h
            have hlate (places : Nat → Nat) : ¬ Embeds change own (xs.reverse ++ [x]) ys.reverse
                (xs.reverse.length + 1) places := by
              intro hembeds
              rw [← List.reverse_cons, List.length_reverse] at hembeds
              exact hfree hembeds.free
            rw [cheapest_cons_of_not_free hprices x y h hprice hfree, List.reverse_cons,
              List.reverse_cons]
            exact ⟨_, hearliest.meet (fun z => Path.append_not_mem_ops z _) hprice hlate⟩

end StorageUpgrade.Alignment
