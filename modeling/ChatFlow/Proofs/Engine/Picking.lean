import ChatFlow.Engine.Compute
import ChatFlow.Proofs.Acts
import ChatFlow.Proofs.Number.Shares
import ChatFlow.Proofs.Results
import ChatFlow.Proofs.Template.Passes
import ChatFlow.Proofs.Text.Search

/-!
# Picking by weights

An item is picked where the weights so far reach a mark, which is a share of their sum. Sums are rounded
on the way, and the mark is.

* `Weight` — a weight as it is read: none is negative, and zero is the integer;
* `exists_reach` — **a mark above zero is reached at a weight above zero**;
* `listRandom_weighted` — **what is picked has a weight above zero**, unless the mark is zero;
* `listRandom_zero` — but a mark of zero is reached at the first item, whatever its weight.
-/

namespace ChatFlow

open ExactValue

/-! ## Weights -/

namespace Number

/-- **A weight**: no number below zero, and zero only as the integer. -/
structure Weight (n : Number) : Prop extends Nonneg n where
  /-- zero is the integer -/
  zero (h : n.exactValue ≤ ofRat 0) : n = .int 0

/-- **A zero that is narrowed** is the integer. -/
theorem narrow_eq_zero {x : Double} (hnumber : (narrow (.double x)).isNaN = false)
    (h : (narrow (.double x)).exactValue = ofRat 0) : narrow (.double x) = .int 0 := by
  cases x with
  | nan => cases hnumber
  | infinity negative =>
    cases negative with
    | false => exact absurd h.symm (ofRat_lt_top 0).ne
    | true => exact absurd h (bot_lt_ofRat 0).ne
  | finite negative m e =>
    rcases Nat.eq_zero_or_pos m with rfl | hm
    · cases negative <;> simp [narrow, Double.truncate?, Double.isInteger, Double.signed]
    · simp only [narrow, Double.truncate?] at h ⊢
      generalize Double.signed negative (ite (0 ≤ e) _ _) = whole at h ⊢
      split at h
      · next hwhole =>
        rw [if_pos hwhole]
        have hzero : (whole : ℚ) = 0 := strictMono_ofRat.injective h
        exact congrArg Number.int (by exact_mod_cast hzero)
      · -- it stays a double, and not one of no value
        have hzero : (Double.signed negative m * 2 ^ e : ℚ) = 0 := strictMono_ofRat.injective h
        have hunit : (2 : ℚ) ^ e ≠ 0 := (zpow_pos two_pos e).ne'
        rw [mul_eq_zero, or_iff_left hunit] at hzero
        have hsigned : Double.signed negative m = 0 := by exact_mod_cast hzero
        unfold Double.signed at hsigned
        split at hsigned <;> omega

/-- **What is read as a number** has zero as the integer only. -/
theorem weight_of_leading? {s : String} {n : Number} (h : leading? s = some n) (hn : n.Nonneg) :
    n.Weight := by
  refine ⟨hn, fun hlow => ?_⟩
  have hzero := le_antisymm hlow hn.low
  obtain ⟨⟨k, rest⟩, hread, rfl⟩ := Option.map_eq_some_iff.mp h
  unfold Numeral.signed? at hread
  dsimp only at hread
  split at hread
  · obtain ⟨rfl, -⟩ := Prod.mk.inj (Option.some.inj hread)
    split at hzero
    · exact absurd hzero (bot_lt_ofRat 0).ne
    · exact absurd hzero.symm (ofRat_lt_top 0).ne
  · obtain ⟨⟨x, t⟩, -, hx⟩ := Option.map_eq_some_iff.mp hread
    obtain ⟨rfl, -⟩ := Prod.mk.inj hx
    exact narrow_eq_zero hn.number hzero

end Number

namespace Compute

/-! ## The mark -/

/-- One weight is added, and the mark compared with the sum. -/
theorem reach_cons {mark sum n next : Number} (hnext : sum.add n = .ok next) (i : Nat)
    (rest : List Number) : reach mark i sum (n :: rest) =
      if mark.atMost next then .ok (some i) else reach mark (i + 1) next rest := by
  rw [reach, hnext]
  rfl

/-- **A mark above zero is reached at a weight above zero.** -/
theorem exists_reach {mark t : Number} (hnumber : mark.isNaN = false)
    (hmark : mark.exactValue ≤ t.exactValue) {weights : List Number}
    (hweights : ∀ n ∈ weights, n.Weight) {sum : Number} (hsum : sum.Tally)
    (htotal : weights.foldlM Number.add sum = .ok t) (hless : sum.exactValue < mark.exactValue)
    (i : Nat) : ∃ k n, reach mark i sum weights = .ok (some (i + k)) ∧ weights[k]? = some n ∧
      n.greater (.int 0) = true := by
  induction weights generalizing sum i with
  | nil =>
    obtain rfl := Except.ok.inj htotal
    exact absurd (hless.trans_le hmark) (lt_irrefl _)
  | cons n rest ih =>
    rw [List.forall_mem_cons] at hweights
    obtain ⟨hn, hrest⟩ := hweights
    obtain ⟨next, hnext, htotal⟩ := exists_of_bind_ok htotal
    have htally : next.Tally := hsum.toNonneg.add hn.toNonneg hnext
    by_cases hreached : mark.exactValue ≤ next.exactValue
    · have hpositive : ofRat 0 < n.exactValue := by
        by_contra hnone
        -- nothing was added to the sum, so the mark was reached before
        obtain rfl := hn.zero (not_lt.mp hnone)
        rw [hsum.add_zero hnext] at hreached
        exact absurd hless (not_lt.mpr hreached)
      refine ⟨0, n, ?_, rfl, ?_⟩
      · rw [reach_cons hnext, if_pos ((Number.atMost_iff hnumber htally.number).mpr hreached)]
        rfl
      · rwa [Number.greater_iff hn.number rfl, Number.exactValue_zero]
    · obtain ⟨k, m, hreach, hm, hgreater⟩ :=
        ih hrest htally htotal (not_le.mp hreached) (i + 1)
      refine ⟨k + 1, m, ?_, hm, hgreater⟩
      rw [reach_cons hnext, if_neg (mt (Number.atMost_iff hnumber htally.number).mp hreached),
        hreach, Nat.add_assoc, Nat.add_comm 1]

/-- A mark that is not above zero is reached at once. -/
theorem reach_first {mark t : Number} (hnumber : mark.isNaN = false)
    (hmark : mark.exactValue ≤ ofRat 0) {n : Number} (hn : n.Nonneg) {rest : List Number}
    (htotal : (n :: rest).foldlM Number.add (.int 0) = .ok t) :
    reach mark 0 (.int 0) (n :: rest) = .ok (some 0) := by
  obtain ⟨next, hnext, -⟩ := exists_of_bind_ok htotal
  have htally := Number.tally_zero.toNonneg.add hn hnext
  have hreached := (Number.atMost_iff hnumber htally.number).mpr (hmark.trans htally.low)
  rw [reach_cons hnext, if_pos hreached]

theorem tally_foldlM {sum t : Number} (hsum : sum.Tally) {weights : List Number}
    (hweights : ∀ n ∈ weights, n.Nonneg) (htotal : weights.foldlM Number.add sum = .ok t) :
    t.Tally := by
  induction weights generalizing sum with
  | nil =>
    obtain rfl := Except.ok.inj htotal
    exact hsum
  | cons n rest ih =>
    rw [List.forall_mem_cons] at hweights
    obtain ⟨next, hnext, htotal⟩ := exists_of_bind_ok htotal
    exact ih (hsum.toNonneg.add hweights.1 hnext) hweights.2 htotal

/-- **A choice by weights**: every item has one, and none is below zero. -/
structure Weighed (p : ListRandomParams) (items : List (List Char)) (weights : List Number) :
    Prop where
  /-- the weights are read -/
  read : weightsOf? p.weights = some weights
  /-- one for every item -/
  length : weights.length = items.length
  /-- and none of them below zero -/
  low : ∀ n ∈ weights, n.atLeast (.int 0) = true

theorem run_pick (p : ListRandomParams) {items : List (List Char)} {i : Nat} {item : List Char}
    (hitem : items[i]? = some item) (w : World) : pick p items i w =
      (.done (), { w with context := (w.context.insert p.resultVar
        (.text (String.ofList item))).insert p.indexVar (.int i) }) := by
  rw [pick, List.getD_eq_getElem?_getD, hitem]
  rfl

namespace Weighed

variable {p : ListRandomParams} {items : List (List Char)} {weights : List Number}
  (h : Weighed p items weights)

include h

theorem weight : ∀ n ∈ weights, n.Weight := by
  intro n hn
  obtain ⟨text, -, htext⟩ := exists_of_mem_mapM h.read hn
  exact Number.weight_of_leading? htext (Number.nonneg_iff.mp (h.low n hn))

theorem nonempty : weights ≠ [] := by
  rintro rfl
  have hread := h.read
  rw [weightsOf?, splitOn_singleton] at hread
  obtain ⟨text, rest, hsplit⟩ := List.exists_cons_of_ne_nil (List.splitOn_ne_nil '|' p.weights.toList)
  rw [hsplit, List.mapM_cons] at hread
  obtain ⟨first, -, hread⟩ := Option.bind_eq_some_iff.mp hread
  obtain ⟨others, -, hread⟩ := Option.bind_eq_some_iff.mp hread
  cases hread

theorem weights_ne : p.weights ≠ "" := by
  intro hblank
  have hread := h.read
  rw [hblank] at hread
  cases hread

/-- An item is picked by a position that the weights choose. -/
theorem run_listRandom {o : Occasion} {w u : World} {text : String} {i : Nat}
    (hitems : Template.render o p.items w = (.done text, u)) (hentries : items = entries text.toList)
    (hi : weighted weights u.dice.peek = .ok (some i)) :
    listRandom p o w = pick p items i { u with dice := u.dice.roll.2 } := by
  have hroll : World.roll u = (.done u.dice.peek, { u with dice := u.dice.roll.2 }) := rfl
  have hsome : items ≠ [] := by
    rintro rfl
    exact h.nonempty (List.length_eq_zero_iff.mp h.length)
  have hchosen : byWeights p items.length u = (.done (some i), { u with dice := u.dice.roll.2 }) := by
    have hcond : (decide (p.weights ≠ "") && decide (weights.length = items.length)) = true := by
      simp [h.weights_ne, h.length]
    rw [byWeights, h.read]
    dsimp only
    rw [if_pos hcond, Act.run_bind_done hroll]
    exact Act.run_of_ok hi _
  subst hentries
  unfold listRandom
  rw [Act.run_bind_done hitems, if_neg (by simpa using hsome), Act.run_bind_done hchosen]

/-- What is read off the variables when an item is picked. -/
theorem exists_after {o : Occasion} {w u : World} {text : String} {i : Nat} {n : Number}
    (hitems : Template.render o p.items w = (.done text, u)) (hentries : items = entries text.toList)
    (hi : weighted weights u.dice.peek = .ok (some i)) (hn : weights[i]? = some n) :
    ∃ item, items[i]? = some item ∧ ∃ after, listRandom p o w = (.done (), after) ∧
      after.context.get? p.indexVar = some (.int i) ∧
      (p.resultVar ≠ p.indexVar →
        after.context.get? p.resultVar = some (.text (String.ofList item))) := by
  obtain ⟨hlength, -⟩ := List.getElem?_eq_some_iff.mp hn
  rw [h.length] at hlength
  have hitem := List.getElem?_eq_getElem hlength
  refine ⟨_, hitem, _, (h.run_listRandom hitems hentries hi).trans (run_pick p hitem _), ?_, ?_⟩
  · rw [Table.get?_insert, if_pos rfl]
  · intro hne
    rw [Table.get?_insert, if_neg hne.symm, Table.get?_insert, if_pos rfl]

end Weighed

/-- **What is picked has a weight above zero**, unless the mark is zero: the first item is picked then,
whatever its weight. The mark is above zero where the draw is and the weights come to one or more. -/
theorem listRandom_weighted {p : ListRandomParams} {o : Occasion} {w u : World} {text : String}
    {weights : List Number} {t mark : Number}
    (hitems : Template.render o p.items w = (.done text, u))
    (hweighed : Weighed p (entries text.toList) weights) (hdraw : u.dice.peek.Share)
    (htotal : total weights = .ok t) (hmark : (Number.double u.dice.peek).mul t = .ok mark)
    (hnumber : mark.isNaN = false) :
    ∃ (i : Nat) (item : List Char) (n : Number),
      (entries text.toList)[i]? = some item ∧ weights[i]? = some n ∧
      (mark.greater (.int 0) = true → n.greater (.int 0) = true) ∧
      (mark.greater (.int 0) = false → i = 0) ∧
      ((Number.double u.dice.peek).greater (.int 0) = true → t.atLeast (.int 1) = true →
        n.greater (.int 0) = true) ∧
      ∃ after, listRandom p o w = (.done (), after) ∧
        after.context.get? p.indexVar = some (.int i) ∧
        (p.resultVar ≠ p.indexVar →
          after.context.get? p.resultVar = some (.text (String.ofList item))) := by
  have hweights := hweighed.weight
  have htally : t.Tally := tally_foldlM Number.tally_zero (fun n hn => (hweights n hn).toNonneg) htotal
  have hone : (Number.double u.dice.peek).greater (.int 0) = true → t.atLeast (.int 1) = true →
      mark.greater (.int 0) = true := by
    intro hpositive hlarge
    have hdrawn := (Number.nonneg_iff.mp hdraw.low).number
    rw [Number.greater_iff hdrawn rfl, Number.exactValue_zero] at hpositive
    rw [Number.atLeast_iff htally.number rfl] at hlarge
    rw [Number.greater_iff hnumber rfl, Number.exactValue_zero]
    have hlarge : ofRat 1 ≤ t.exactValue := by simpa [Number.exactValue] using hlarge
    exact hpositive.trans_le (Number.le_share hdraw hpositive htally.toNonneg hlarge hmark)
  have hweighted : weighted weights u.dice.peek = reach mark 0 (.int 0) weights := by
    rw [weighted, htotal]
    exact congrArg (fun r => r >>= fun mark => reach mark 0 (.int 0) weights) hmark
  by_cases hpositive : mark.greater (.int 0) = true
  · have hless : (Number.int 0).exactValue < mark.exactValue :=
      (Number.greater_iff hnumber rfl).mp hpositive
    obtain ⟨k, n, hreach, hn, hgreater⟩ := exists_reach hnumber
      (Number.share_le hdraw htally hmark) hweights Number.tally_zero htotal hless 0
    rw [Nat.zero_add, ← hweighted] at hreach
    obtain ⟨item, hitem, hafter⟩ := hweighed.exists_after hitems rfl hreach hn
    exact ⟨k, item, n, hitem, hn, fun _ => hgreater, fun h => absurd hpositive (by simp [h]),
      fun _ _ => hgreater, hafter⟩
  · have hnone : mark.exactValue ≤ ofRat 0 := by
      rw [Number.greater_iff hnumber rfl, Number.exactValue_zero] at hpositive
      exact not_lt.mp hpositive
    obtain ⟨n, rest, rfl⟩ := List.exists_cons_of_ne_nil hweighed.nonempty
    have hreach := reach_first hnumber hnone (hweights n List.mem_cons_self).toNonneg htotal
    rw [← hweighted] at hreach
    obtain ⟨item, hitem, hafter⟩ := hweighed.exists_after hitems rfl hreach rfl
    exact ⟨0, item, n, hitem, rfl, fun h => absurd h hpositive, fun _ => rfl,
      fun hx ht => absurd (hone hx ht) hpositive, hafter⟩

/-! ## A raffle -/

namespace Raffle

/-- A choice of three, the first of them not to be won. -/
def choice : ListRandomParams := ⟨"pen|cup|hat", "0|2|1", "won", "number", []⟩

/-- A world with a draw. -/
def world (draw : Double) : World := { Template.Greeting.world with dice := ⟨[draw], 0⟩ }

theorem render_choice (draw : Double) :
    Template.render Template.Greeting.occasion choice.items (world draw) =
      (.done choice.items, world draw) := Template.render_plain (by decide) _ _

theorem weighed_choice :
    Weighed choice (entries choice.items.toList) [.int 0, .int 2, .int 1] where
  read := by decide +kernel
  length := by decide
  low := by decide

/-- One half. -/
def half : Double := .finite false (2 ^ 52) (-53)

theorem share_half : (world half).dice.peek.Share where
  canonical := by
    refine ⟨?_, ?_, ?_, fun _ => ?_⟩ <;> decide +kernel
  low := by decide +kernel
  high := by decide +kernel

end Raffle

open Raffle in
/-- With one half, an item is won whose weight is above zero. -/
theorem listRandom_weighted_half :
    Template.render Template.Greeting.occasion choice.items (world half) =
        (.done choice.items, world half) ∧
      Weighed choice (entries choice.items.toList) [.int 0, .int 2, .int 1] ∧
      (world half).dice.peek.Share ∧ total [.int 0, .int 2, .int 1] = .ok (.int 3) ∧
      (Number.double (world half).dice.peek).mul (.int 3) =
        .ok (.double (.finite false (3 * 2 ^ 51) (-52))) ∧
      (Number.double (.finite false (3 * 2 ^ 51) (-52))).greater (.int 0) = true ∧
      ∃ (i : Nat) (item : List Char) (n : Number),
        (entries choice.items.toList)[i]? = some item ∧
        [Number.int 0, .int 2, .int 1][i]? = some n ∧ n.greater (.int 0) = true ∧
        ∃ after, listRandom choice Template.Greeting.occasion (world half) = (.done (), after) ∧
          after.context.get? "number" = some (.int i) ∧
          after.context.get? "won" = some (.text (String.ofList item)) := by
  have hmark : (Number.double (world half).dice.peek).mul (.int 3) =
      .ok (.double (.finite false (3 * 2 ^ 51) (-52))) := by decide +kernel
  have hpositive : (Number.double (.finite false (3 * 2 ^ 51) (-52))).greater (.int 0) = true := by
    decide +kernel
  obtain ⟨i, item, n, hitem, hn, hgreater, -, -, after, hafter, hindex, hresult⟩ :=
    listRandom_weighted (render_choice half) weighed_choice share_half rfl hmark rfl
  exact ⟨render_choice half, weighed_choice, share_half, rfl, hmark, hpositive, i, item, n, hitem, hn,
    hgreater hpositive, after, hafter, hindex, hresult (by decide)⟩

open Raffle in
/-- **A draw of zero picks the first item**, even if its weight is zero. -/
theorem listRandom_zero :
    Weighed choice (entries choice.items.toList) [.int 0, .int 2, .int 1] ∧
      total [.int 0, .int 2, .int 1] = .ok (.int 3) ∧ (world (.zero false)).dice.peek.Share ∧
      ((listRandom choice Template.Greeting.occasion (world (.zero false))).2.valueOf
        "won").textOrBlank = "pen" := by
  have hdraw : (world (.zero false)).dice.peek.Share :=
    ⟨Double.canonical_zero false, by decide +kernel, by decide +kernel⟩
  exact ⟨weighed_choice, rfl, hdraw, by decide +kernel⟩

end Compute

end ChatFlow
