import ChatFlow.Proofs.Engine.Conduct
import ChatFlow.Proofs.Number.Order
import ChatFlow.Proofs.Store.Restarts
import Mathlib.Data.List.Sort

/-!
# Rankings are consistent

The rows of a ranking, its first rows, the place of a user and the count of users describe one and
the same order.

* `Store.Distinct` — each user has one record: `distinct_after` — so it is after every series of
  requests;
* `Store.scored` — the users that take part: `mem_scored`, in the order of their records:
  `names_scored`;
* `Store.InOrder` — rows by exact value; `ranking_sorted` — **a ranking is sorted by it**, and
  `ranking_ties` — **rows of equal value stand as they stood before**;
* `rankOf_of_getElem?`, `rankOf_of_not_mem` — the place of a user is where it stands in the ranking;
* `Store.rankings_consistent` — all of it at once.
-/

namespace ChatFlow

/-! ## One record for each user -/

/-- **Each user has one record.** -/
def Store.Distinct (s : Store) : Prop := s.users.keys.Nodup

/-- Users that have one record each keep to it. -/
def Conduct.keepingDistinct : Conduct where
  leads u v := u.store.Distinct → v.store.Distinct
  hangs := True
  refl _ := id
  trans huv hvw := hvw ∘ huv

theorem Conduct.tolerates_keepingDistinct : Conduct.keepingDistinct.Tolerates where
  dice _ _ := id
  patterns _ _ := id
  network _ _ _ := id
  sleeps _ _ := id
  log _ _ := id
  disk _ _ := id

namespace Store

instance (s : Store) : Decidable s.Distinct := inferInstanceAs (Decidable s.users.keys.Nodup)

open Act.Keeps (bind pure) in
/-- **No request gives a user a second record.** -/
theorem Request.keepingDistinct (r : Request) : r.act.Keeps Conduct.keepingDistinct := by
  have hown (user key : String) : Owning Conduct.keepingDistinct.Kept user key :=
    Conduct.tolerates_keepingDistinct.owning fun _ _ _ h => Table.keys_nodup_insert h _ _
  have hshare (key : String) : Sharing Conduct.keepingDistinct.Kept key :=
    Conduct.tolerates_keepingDistinct.sharing fun _ _ _ => id
  have hsee {α : Type} (view : World → α) : (Act.see view).Keeps Conduct.keepingDistinct :=
    fun _ => ⟨id, nofun⟩
  cases r with
  | userValue user key default => exact bind (hsee _) fun _ => pure _
  | globalValue key default => exact bind (hsee _) fun _ => pure _
  | setUser user key v => exact bind ((hown user key).setUser v) fun _ => pure _
  | setGlobal key v => exact bind ((hshare key).setGlobal v) fun _ => pure _
  | incrUser user key amount default =>
    exact bind ((hown user key).incrUser amount default) fun _ => pure _
  | incrGlobal key amount default =>
    exact bind ((hshare key).incrGlobal amount default) fun _ => pure _
  | deleteUser user key => exact bind (hown user key).deleteUser fun _ => pure _
  | deleteGlobal key => exact bind (hshare key).deleteGlobal fun _ => pure _
  | top key limit ascending => exact hsee _
  | rankOf user key ascending => exact hsee _
  | countWithKey key => exact hsee _

theorem distinct_empty : empty.Distinct := List.nodup_nil

theorem distinct_adopt {s : Store} (h : s.Distinct) {entries : Table Value}
    (hkeys : entries.keys.Nodup) (c : Collection) : (s.adopt entries c).Distinct := by
  cases c with
  | globals => exact h
  | users =>
    refine (Table.keys_filterMap (fun {entry row} hrow => ?_) entries).nodup hkeys
    split at hrow <;> cases hrow
    rfl

theorem distinct_loadCollection {d : Disk} {c : Collection} {s t : Store} {notes : List Note}
    (h : s.Distinct) (hload : loadCollection d c s = (.ok t, notes)) : t.Distinct := by
  rw [loadCollection] at hload
  split at hload
  case h_4 entries hdocument =>
    cases hload
    have hexact := Json.exact_object_iff.mp (Disk.storable_of_readDocument hdocument).exact
    exact distinct_adopt h hexact.1 c
  all_goals cases hload
  all_goals exact h

/-- **A file gives no user a second record.** -/
theorem distinct_load {d : Disk} {s : Store} {notes : List Note} (h : load d = (.ok s, notes)) :
    s.Distinct := by
  rw [load] at h
  split at h
  · cases h
  · next users more husers =>
    obtain ⟨hglobals, -⟩ := Prod.mk.inj h
    exact distinct_loadCollection (distinct_loadCollection distinct_empty husers)
      (Prod.ext hglobals rfl)

theorem Step.distinct (step : Step) {w : World} (h : w.store.Distinct) :
    (step.onDisk w).2.store.Distinct := by
  cases step with
  | request r => exact (r.keepingDistinct w).1 h
  | reopening =>
    have hopen : (onDisk .reopening w).2 = (World.reopen w).2 :=
      congrArg Prod.snd (Act.run_bind_return World.reopen (fun _ => Answer.nothing) w)
    rw [hopen, World.reopen]
    split
    · next hload => exact distinct_load hload
    · exact h

/-- **Each user has one record after every series of requests**, however often the store is opened
again. -/
theorem distinct_after (steps : List Step) {w : World} (h : w.store.Distinct) :
    (steps.foldl (fun w step => (step.onDisk w).2) w).store.Distinct := by
  induction steps generalizing w with
  | nil => exact h
  | cons step rest ih => exact ih (step.distinct h)

/-! ## Users that take part -/

section

variable {s : Store} {key user : String} {n : Number}

theorem score?_eq_some {record : Table Value} :
    score? key record = some n ↔
      ∃ v, record.get? key = some v ∧ v.toNumber = n ∧ n.isNaN = false := by
  rw [score?, Option.filter_eq_some_iff, Option.map_eq_some_iff, Bool.not_eq_true']
  constructor
  · rintro ⟨⟨v, hv, hn⟩, hnan⟩
    exact ⟨v, hv, hn, hnan⟩
  · rintro ⟨v, hv, hn, hnan⟩
    exact ⟨⟨v, hv, hn⟩, hnan⟩

/-- **Who takes part**: whoever has a number under the key. -/
theorem mem_scored (h : s.Distinct) :
    (user, n) ∈ s.scored key ↔
      ∃ record, s.users.get? user = some record ∧ score? key record = some n := by
  rw [scored, List.mem_filterMap]
  constructor
  · rintro ⟨⟨name, record⟩, hentry, hrow⟩
    obtain ⟨m, hscore, heq⟩ := Option.map_eq_some_iff.mp hrow
    obtain ⟨rfl, rfl⟩ := Prod.mk.inj heq
    exact ⟨record, Table.get?_of_mem h hentry, hscore⟩
  · rintro ⟨record, hrecord, hscore⟩
    exact ⟨(user, record), Table.mem_of_get? hrecord, by rw [hscore, Option.map_some]⟩

/-- They stand in the order of their records. -/
theorem names_scored (s : Store) (key : String) :
    ((s.scored key).map Prod.fst).Sublist s.users.keys := by
  refine Table.keys_filterMap (fun {entry row} hrow => ?_) s.users
  obtain ⟨m, -, rfl⟩ := Option.map_eq_some_iff.mp hrow
  rfl

/-- What takes part is a number. -/
theorem isNaN_of_mem_scored {row : String × Number} (h : row ∈ s.scored key) :
    row.2.isNaN = false := by
  obtain ⟨entry, -, hrow⟩ := List.mem_filterMap.mp h
  obtain ⟨m, hscore, rfl⟩ := Option.map_eq_some_iff.mp hrow
  obtain ⟨-, -, -, hnan⟩ := score?_eq_some.mp hscore
  exact hnan

/-- **Whoever takes part has the key.** -/
theorem length_scored (s : Store) (key : String) : (s.scored key).length ≤ s.countWithKey key := by
  rw [scored, List.length_filterMap_eq_countP, countWithKey, ← List.countP_eq_length_filter]
  refine List.countP_mono_left fun entry _ hrow => ?_
  rw [Option.isSome_map, Option.isSome_iff_exists] at hrow
  obtain ⟨m, hscore⟩ := hrow
  obtain ⟨v, hv, -⟩ := score?_eq_some.mp hscore
  rw [Table.contains, hv]
  rfl

end

/-! ## The order of rows -/

/-- **Whether the first may stand before the second**, by exact value. -/
def InOrder (ascending : Bool) (a b : String × Number) : Prop :=
  if ascending then a.2.exactValue ≤ b.2.exactValue else b.2.exactValue ≤ a.2.exactValue

instance (ascending : Bool) (a b : String × Number) : Decidable (InOrder ascending a b) :=
  inferInstanceAs (Decidable (if ascending then a.2.exactValue ≤ b.2.exactValue
    else b.2.exactValue ≤ a.2.exactValue))

section

variable {ascending : Bool} {a b c : String × Number}

theorem InOrder.trans (hab : InOrder ascending a b) (hbc : InOrder ascending b c) :
    InOrder ascending a c := by
  cases ascending with
  | true => exact le_trans hab hbc
  | false => exact le_trans hbc hab

theorem inOrder_total (ascending : Bool) (a b : String × Number) :
    InOrder ascending a b ∨ InOrder ascending b a := by
  cases ascending with
  | true => exact le_total _ _
  | false => exact le_total _ _

/-- Rows of equal value may stand either way. -/
theorem inOrder_of_eq (h : a.2.exactValue = b.2.exactValue) : InOrder ascending a b := by
  cases ascending with
  | true => exact h.le
  | false => exact h.ge

theorem ahead_eq (ha : a.2.isNaN = false) (hb : b.2.isNaN = false) :
    ahead ascending a b = decide (InOrder ascending a b) := by
  rw [Bool.eq_iff_iff, decide_eq_true_iff]
  cases ascending with
  | true => exact Number.atMost_iff ha hb
  | false => exact Number.atLeast_iff ha hb

end

section

variable (s : Store) (key : String) (ascending : Bool)

/-- The ranking compares rows that are numbers, so it is sorted by their exact values. -/
theorem ranking_eq : s.ranking key ascending =
    (s.scored key).mergeSort fun a b => decide (InOrder ascending a b) := by
  have hsame := List.map_mergeSort (f := id) (l := s.scored key) (r := ahead ascending)
    (s := fun a b => decide (InOrder ascending a b)) fun a ha b hb =>
      ahead_eq (isNaN_of_mem_scored ha) (isNaN_of_mem_scored hb)
  rwa [List.map_id, List.map_id] at hsame

theorem ranking_perm : (s.ranking key ascending).Perm (s.scored key) := List.mergeSort_perm _ _

/-- **A ranking is sorted** by exact value. -/
theorem ranking_sorted : (s.ranking key ascending).Pairwise (InOrder ascending) := by
  rw [ranking_eq]
  have hsorted := @List.pairwise_mergeSort _ (fun a b => decide (InOrder ascending a b))
    (fun a b c => by simpa using InOrder.trans) (fun a b => by simpa using inOrder_total ascending a b)
    (s.scored key)
  simpa using hsorted

/-- **Rows of equal value stand as they stood before**, whichever end comes first. -/
theorem ranking_ties (value : ExactValue) :
    (s.ranking key ascending).filter (fun row => row.2.exactValue = value) =
      (s.scored key).filter fun row => row.2.exactValue = value := by
  have hties : ((s.scored key).filter fun row => row.2.exactValue = value).Pairwise fun a b =>
      decide (InOrder ascending a b) = true := by
    refine List.pairwise_of_forall_mem_list fun a ha b hb => ?_
    have hvalue : a.2.exactValue = b.2.exactValue := by
      rw [of_decide_eq_true (List.mem_filter.mp ha).2, of_decide_eq_true (List.mem_filter.mp hb).2]
    exact decide_eq_true (inOrder_of_eq hvalue)
  have hstays : ((s.scored key).filter fun row => row.2.exactValue = value).Sublist
      (s.ranking key ascending) := by
    rw [ranking_eq]
    exact List.sublist_mergeSort (fun a b c => by simpa using InOrder.trans)
      (fun a b => by simpa using inOrder_total ascending a b) hties List.filter_sublist
  have hamong := hstays.filter fun row => row.2.exactValue = value
  simp only [List.filter_filter, Bool.and_self] at hamong
  exact (hamong.eq_of_length ((s.ranking_perm key ascending).filter _).length_eq.symm).symm

/-- No user is ranked twice. -/
theorem names_ranking (h : s.Distinct) : ((s.ranking key ascending).map Prod.fst).Nodup :=
  ((s.ranking_perm key ascending).map Prod.fst).nodup_iff.mpr ((s.names_scored key).nodup h)

end

/-! ## Places -/

section

variable {rows : List (String × Number)} {user : String}

theorem placeFrom_of_getElem? (h : (rows.map Prod.fst).Nodup) {i : Nat} {n : Number}
    (hrow : rows[i]? = some (user, n)) (start : Nat) :
    placeFrom user start rows = some (start + i, n) := by
  induction rows generalizing i start with
  | nil => cases hrow
  | cons row rest ih =>
    obtain ⟨name, m⟩ := row
    obtain ⟨hname, hrest⟩ := List.nodup_cons.mp h
    cases i with
    | zero =>
      cases hrow
      rw [placeFrom, if_pos rfl, Nat.add_zero]
    | succ i =>
      have hlater : rest[i]? = some (user, n) := hrow
      have hmem : user ∈ rest.map Prod.fst := List.mem_map_of_mem (List.mem_of_getElem? hlater)
      have hne : name ≠ user := fun heq => hname (heq ▸ hmem)
      rw [placeFrom, if_neg hne, ih hrest hlater, Nat.add_right_comm, Nat.add_assoc]

theorem placeFrom_of_not_mem (h : user ∉ rows.map Prod.fst) (start : Nat) :
    placeFrom user start rows = none := by
  induction rows generalizing start with
  | nil => rfl
  | cons row rest ih =>
    obtain ⟨hne, hrest⟩ := not_or.mp (fun hor => h (List.mem_cons.mpr hor))
    rw [placeFrom, if_neg (Ne.symm hne), ih hrest]

variable {s : Store} {key : String} {ascending : Bool}

/-- **The place of a user** is where it stands in the ranking, from one up. -/
theorem rankOf_of_getElem? (h : s.Distinct) {i : Nat} {n : Number}
    (hrow : (s.ranking key ascending)[i]? = some (user, n)) :
    s.rankOf user key ascending = ⟨i + 1, n, (s.ranking key ascending).length⟩ := by
  rw [rankOf, placeFrom_of_getElem? (s.names_ranking key ascending h) hrow, Nat.add_comm]

theorem rankOf_of_not_mem (h : user ∉ (s.ranking key ascending).map Prod.fst) :
    s.rankOf user key ascending = ⟨0, .int 0, (s.ranking key ascending).length⟩ := by
  rw [rankOf, placeFrom_of_not_mem h]

end

/-! ## All of it -/

/-- **Rankings are consistent.** With a limit that leaves nobody out, the rows are the users that
have a number under the key, each once and with that number, sorted by exact value, and users of equal
value in the order of their records. Any other limit cuts these rows off; the place of a user is where
it stands among them, or zero; and there are no more rows than users that have the key. -/
theorem rankings_consistent {s : Store} (h : s.Distinct) (key : String) (ascending : Bool)
    {limit : Int} (hlimit : s.users.length ≤ limit) :
    let rows := s.top key limit ascending
    (∀ user n, (user, n) ∈ rows ↔ ∃ record v, s.users.get? user = some record ∧
      record.get? key = some v ∧ v.toNumber = n ∧ n.isNaN = false) ∧
    (rows.map Prod.fst).Nodup ∧
    rows.Pairwise (fun a b => if ascending then a.2.exactValue ≤ b.2.exactValue
      else b.2.exactValue ≤ a.2.exactValue) ∧
    (∀ value, ((rows.filter fun row => row.2.exactValue = value).map Prod.fst).Sublist
      s.users.keys) ∧
    (∀ count : Int, s.top key count ascending = rows.take count.toNat) ∧
    (∀ i user n, rows[i]? = some (user, n) →
      s.rankOf user key ascending = ⟨i + 1, n, rows.length⟩) ∧
    (∀ user, user ∉ rows.map Prod.fst →
      s.rankOf user key ascending = ⟨0, .int 0, rows.length⟩) ∧
    rows.length ≤ s.countWithKey key := by
  have hlength : (s.ranking key ascending).length = (s.scored key).length :=
    (s.ranking_perm key ascending).length_eq
  have hall : s.top key limit ascending = s.ranking key ascending := by
    have hscored : (s.scored key).length ≤ s.users.length := List.length_filterMap_le _ _
    exact List.take_of_length_le (by omega)
  rw [hall]
  intro rows
  refine ⟨fun user n => ?_, s.names_ranking key ascending h, s.ranking_sorted key ascending,
    fun value => ?_, fun count => rfl, fun i user n => rankOf_of_getElem? h,
    fun user => rankOf_of_not_mem, hlength.trans_le (s.length_scored key)⟩
  · rw [(s.ranking_perm key ascending).mem_iff, mem_scored h]
    simp only [score?_eq_some, exists_and_left]
  · rw [ranking_ties]
    exact (List.filter_sublist.map Prod.fst).trans (s.names_scored key)

/-! ## A ranking of mixed values -/

namespace Derby

/-- Three and a half. -/
def half : Double := .finite false (7 * 2 ^ 50) (-51)

/-- **Scores of all kinds**: an integer, text that spells a number and text that does not, and a
double that equals the integer. -/
def store : Store where
  users := [("ann", [("score", .number (.int 10))]), ("bob", [("score", .text "3.5")]),
    ("cid", [("score", .text "fast")]), ("dot", [("score", .number (.double (Double.ofInt 10)))]),
    ("eve", [])]
  globals := []

theorem distinct : store.Distinct := by decide

theorem scored_score : store.scored "score" =
    [("ann", .int 10), ("bob", .double half), ("dot", .double (Double.ofInt 10))] := by
  decide +kernel

theorem top_score (limit : Int) : store.top "score" limit false =
    [("ann", .int 10), ("dot", .double (Double.ofInt 10)), ("bob", .double half)].take
      limit.toNat := by
  have hbob : ahead false ("ann", .int 10) ("bob", .double half) = true := by decide +kernel
  have hdot : ahead false ("ann", .int 10) ("dot", .double (Double.ofInt 10)) = true := by
    decide +kernel
  have hlast : ahead false ("bob", .double half) ("dot", .double (Double.ofInt 10)) = false := by
    decide +kernel
  rw [top, ranking, scored_score]
  simp [List.mergeSort, List.MergeSort.Internal.splitInTwo, hbob, hdot, hlast]

end Derby

/-- Ten is ten, as an integer and as a double, so whose record is older stands first. -/
theorem rankings_consistent_derby :
    Derby.store.Distinct ∧ (Derby.store.users.length : Int) ≤ 5 ∧
      Derby.store.top "score" 2 false = (Derby.store.top "score" 5 false).take 2 ∧
      Derby.store.rankOf "dot" "score" false = ⟨2, .double (Double.ofInt 10), 3⟩ ∧
      Derby.store.rankOf "cid" "score" false = ⟨0, .int 0, 3⟩ := by
  have hlimit : (Derby.store.users.length : Int) ≤ 5 := by decide
  obtain ⟨-, -, -, -, hcut, hplace, hnowhere, -⟩ :=
    rankings_consistent Derby.distinct "score" false hlimit
  have hrows := Derby.top_score 5
  have hdot := hplace 1 "dot" (.double (Double.ofInt 10)) (by rw [hrows]; rfl)
  have hcid := hnowhere "cid" (by rw [hrows]; decide)
  rw [hrows] at hdot hcid
  exact ⟨Derby.distinct, hlimit, hcut 2, hdot, hcid⟩

end Store

end ChatFlow
