import ChatFlow.Pattern.Cache
import ChatFlow.Proofs.Tables
import Mathlib.Data.List.DropRight

/-!
# What a cache of patterns holds

A cache answers as if there were none, and what it holds is known from its history: the patterns
that were inserted last.

* `compile` — what becomes of a pattern text where nothing is kept;
* `Cache.get_of_kept`, `Cache.get_of_absent` — **hit** and **miss**;
* `Cache.inserted?` — what a command inserts: a well-formed pattern looked up in its absence, and
  nothing else changes anything but a clearing;
* `Recent` — a cache holds, oldest first, the last patterns of the log of insertions, as many as it
  has room for, each as it compiles;
* `Recent.after` — **so it does after any commands**;
* `Cache.recent_of_create` — and every look-up on the way was answered as without a cache.
-/

namespace ChatFlow.Pattern

/-- **What a pattern text compiles to**: its pattern, nothing where it is malformed, or the limit it
breaks. -/
def compile (names : CharNames) (text : String) : Except Fault (Option Compiled) :=
  match parse names text with
  | .ok p => .ok (some p)
  | .error .malformed => .ok none
  | .error (.fault cause) => .error cause

namespace Cache

/-! ## Commands -/

/-- **What is asked of a cache.** -/
inductive Command where
  /-- the pattern of a text -/
  | get (text : String)
  /-- whether the pattern of a text is kept -/
  | contains (text : String)
  /-- to forget all patterns -/
  | clear
  deriving DecidableEq

/-- What it answers. -/
inductive Answer where
  /-- the pattern, nothing, or a fault -/
  | pattern (found : Except Fault (Option Compiled))
  /-- whether it is kept -/
  | known (kept : Bool)
  /-- done -/
  | cleared

/-- **A command carried out.** A fault leaves the cache as it was. -/
def obey (cache : Cache) : Command → Answer × Cache
  | .get text =>
    match cache.get text with
    | .ok (found, after) => (.pattern (.ok found), after)
    | .error f => (.pattern (.error f), cache)
  | .contains text => (.known (cache.contains text), cache)
  | .clear => (.cleared, cache.clear)

/-- The answers to commands, one after the other. -/
def answers : Cache → List Command → List Answer
  | _, [] => []
  | cache, command :: rest => (cache.obey command).1 :: answers (cache.obey command).2 rest

/-- The cache after commands. -/
def after (cache : Cache) (commands : List Command) : Cache :=
  commands.foldl (fun cache command => (cache.obey command).2) cache

/-- **What a command inserts**: the pattern of a text that is looked up while it is absent. -/
def inserted? (cache : Cache) : Command → Option (String × Compiled)
  | .get text =>
    if cache.contains text then none
    else match parse cache.charNames text with
      | .ok p => some (text, p)
      | .error _ => none
  | _ => none

/-- The log of insertions since the last clearing, a command later. -/
def noted (cache : Cache) (log : List String) : Command → List String
  | .clear => []
  | command => log ++ ((cache.inserted? command).map Prod.fst).toList

/-- **The log of insertions** since the last clearing, after commands. -/
def logAfter : Cache → List String → List Command → List String
  | _, log, [] => log
  | cache, log, command :: rest =>
    logAfter (cache.obey command).2 (cache.noted log command) rest

/-! ## Look-ups -/

section Get

variable {cache : Cache} {text : String} {p : Compiled}

/-- **Hit.** -/
theorem get_of_kept (h : cache.entries.get? text = some p) :
    cache.get text = .ok (some p, cache) := by
  rw [get, h]

/-- **Miss.** What the text compiles to is the answer, and a pattern is kept. -/
theorem get_of_absent (h : cache.entries.get? text = none) :
    cache.get text = (compile cache.charNames text).map fun found =>
      (found, match found with
        | some p => cache.keep text p
        | none => cache) := by
  rw [get, h, compile]
  rcases parse cache.charNames text with (_ | f) | p <;> rfl

end Get

/-- **Whatever inserts nothing changes nothing**, clearing aside. -/
theorem obey_of_none {cache : Cache} {command : Command} (hc : command ≠ .clear)
    (h : cache.inserted? command = none) : (cache.obey command).2 = cache := by
  cases command with
  | clear => exact absurd rfl hc
  | contains text => rfl
  | get text =>
    rcases hkept : cache.entries.get? text with _ | p
    · rw [inserted?, if_neg (by simp [contains, Table.contains, hkept])] at h
      rw [obey, get_of_absent hkept, compile]
      rcases hparse : parse cache.charNames text with (_ | f) | p
      · rfl
      · rfl
      · simp [hparse] at h
    · rw [obey, get_of_kept hkept]

/-- **What is inserted is kept**; before, it was absent and well-formed. -/
theorem obey_of_some {cache : Cache} {command : Command} {text : String} {p : Compiled}
    (h : cache.inserted? command = some (text, p)) :
    (cache.obey command).2 = cache.keep text p ∧ cache.entries.get? text = none ∧
      parse cache.charNames text = .ok p := by
  cases command with
  | clear => cases h
  | contains text => cases h
  | get asked =>
    rw [inserted?] at h
    split at h
    · cases h
    · next habsent =>
      split at h
      · next q hparse =>
        obtain ⟨rfl, rfl⟩ := Prod.mk.inj (Option.some.inj h)
        have hget : cache.entries.get? asked = none := by
          simpa [contains, Table.contains] using habsent
        refine ⟨?_, hget, hparse⟩
        rw [obey, get_of_absent hget, compile, hparse]
        rfl
      · cases h

end Cache

/-! ## The log -/

/-- **A cache that holds what was inserted last**, with room for one pattern and `room` more. -/
structure Recent (names : CharNames) (room : Nat) (log : List String) (cache : Cache) : Prop where
  /-- the room does not change -/
  capacity : cache.capacity = room + 1
  /-- nor do the names of characters -/
  charNames : cache.charNames = names
  /-- the texts are the last ones of the log, oldest first, as many as there is room for -/
  keys : cache.entries.keys = log.rtake (room + 1)
  /-- no text stands twice -/
  distinct : cache.entries.keys.Nodup
  /-- each pattern is the one that its text spells -/
  genuine : ∀ entry ∈ cache.entries, parse names entry.1 = .ok entry.2

/-- What is left of the last items of a list where room for one more is made. -/
theorem makeRoom_rtake {α : Type} (l : List α) (n : Nat) :
    (if n + 1 ≤ (l.rtake (n + 1)).length then (l.rtake (n + 1)).tail else l.rtake (n + 1)) =
      l.rtake n := by
  simp only [List.rtake, List.length_drop]
  split
  · rw [List.tail_drop]
    congr 1
    omega
  · congr 1
    omega

namespace Recent

open Cache

variable {names : CharNames} {room : Nat} {log : List String} {cache : Cache} {text : String} {p : Compiled}

theorem length_entries (h : Recent names room log cache) :
    cache.entries.length = (log.rtake (room + 1)).length := by
  rw [← h.keys, Table.keys, List.length_map]

/-- A cache without patterns, after a log without insertions. -/
theorem cleared (h : cache.capacity = room + 1) (hnames : cache.charNames = names) :
    Recent names room [] cache.clear where
  capacity := h
  charNames := hnames
  keys := by simp [clear, Table.keys]
  distinct := List.nodup_nil
  genuine := nofun

/-- **An insertion** goes to the end of the log and of the cache; where there is no room, the oldest
text makes some. -/
theorem keep (h : Recent names room log cache) (habsent : cache.entries.get? text = none)
    (hparse : parse names text = .ok p) : Recent names room (log ++ [text]) (cache.keep text p) := by
  let kept := if cache.capacity ≤ cache.entries.length then cache.entries.tail else cache.entries
  have hsub : kept.Sublist cache.entries := by
    dsimp only [kept]
    split
    · exact List.tail_sublist _
    · exact .refl _
  have hkept : Table.keys kept = log.rtake room := by
    rw [← makeRoom_rtake, ← h.length_entries, ← h.keys, ← h.capacity]
    dsimp only [kept]
    split
    · exact List.map_tail
    · rfl
  have hkeys : (cache.keep text p).entries.keys = Table.keys kept ++ [text] := by
    simp [Cache.keep, Table.keys, kept]
  refine ⟨h.capacity, h.charNames, ?_, ?_, ?_⟩
  · rw [hkeys, hkept, List.rtake_concat_succ]
  · have hnot : text ∉ Table.keys kept := fun hmem =>
      Table.get?_eq_none_iff.mp habsent ((hsub.map Prod.fst).subset hmem)
    rw [hkeys, List.nodup_append]
    refine ⟨(hsub.map Prod.fst).nodup h.distinct, List.nodup_singleton text, ?_⟩
    intro a ha b hb
    rw [List.mem_singleton] at hb
    rintro rfl
    exact hnot (hb ▸ ha)
  · intro entry hentry
    rcases List.mem_append.mp hentry with hold | hnew
    · exact h.genuine entry (hsub.subset hold)
    · obtain rfl := List.mem_singleton.mp hnew
      exact hparse

/-- **What a command does to the log it does to the cache.** -/
theorem obey (h : Recent names room log cache) (command : Command) :
    Recent names room (cache.noted log command) (cache.obey command).2 := by
  by_cases hc : command = .clear
  · subst hc
    exact cleared h.capacity h.charNames
  · have hnoted : cache.noted log command =
        log ++ ((cache.inserted? command).map Prod.fst).toList := by
      cases command with
      | clear => exact absurd rfl hc
      | _ => rfl
    rw [hnoted]
    rcases hins : cache.inserted? command with _ | ⟨text, p⟩
    · rw [obey_of_none hc hins, Option.map_none, Option.toList_none, List.append_nil]
      exact h
    · obtain ⟨hobey, habsent, hparse⟩ := obey_of_some hins
      rw [hobey]
      exact h.keep habsent (h.charNames ▸ hparse)

/-- **So it is after any commands**, by induction on them. -/
theorem after (h : Recent names room log cache) (commands : List Command) :
    Recent names room (logAfter cache log commands) (cache.after commands) := by
  induction commands generalizing cache log with
  | nil => exact h
  | cons command rest ih => exact ih (h.obey command)

/-- **A look-up is answered as without a cache.** -/
theorem answer_get (h : Recent names room log cache) (text : String) :
    (cache.obey (.get text)).1 = .pattern (compile names text) := by
  rcases hkept : cache.entries.get? text with _ | p
  · rw [Cache.obey, get_of_absent hkept, h.charNames]
    rcases compile names text with f | found <;> rfl
  · rw [Cache.obey, get_of_kept hkept, compile, h.genuine _ (Table.mem_of_get? hkept)]

/-- So is each look-up among any commands. -/
theorem answers_get (h : Recent names room log cache) {commands : List Command} {i : Nat} {text : String}
    (hi : commands[i]? = some (.get text)) :
    (cache.answers commands)[i]? = some (.pattern (compile names text)) := by
  induction commands generalizing cache log i with
  | nil => simp at hi
  | cons command rest ih =>
    cases i with
    | zero =>
      obtain rfl := Option.some.inj hi
      exact congrArg some (h.answer_get text)
    | succ i => exact ih (h.obey command) hi

end Recent

namespace Cache

theorem contains_iff {cache : Cache} {text : String} :
    cache.contains text = true ↔ text ∈ cache.entries.keys := by
  rw [contains, Table.contains, Option.isSome_iff_ne_none, Ne, Table.get?_eq_none_iff, not_not]

/-- **A cache is known from its history.** A cache with room for `c` patterns, after any commands:
each look-up on the way was answered with what its text compiles to, be it a pattern, nothing or a
fault; the cache holds the last `c` insertions since it was last cleared, or all if there were
fewer, oldest first and each once; and no command but an insertion or a clearing would change it. -/
theorem recent_of_create (names : CharNames) {c : Int} (hc : 1 ≤ c) (commands : List Command) :
    ∃ cache, create names c = .ok cache ∧
      (∀ (i : Nat) (text : String), commands[i]? = some (.get text) →
        (cache.answers commands)[i]? = some (.pattern (compile names text))) ∧
      let log := cache.logAfter [] commands
      let last := cache.after commands
      last.entries.keys = log.rtake (min c.toNat log.length) ∧
        (last.entries.length : Int) ≤ c ∧ last.entries.keys.Nodup ∧
        (∀ text, last.contains text = true ↔ text ∈ log.rtake (min c.toNat log.length)) ∧
        ∀ command, command ≠ .clear → last.inserted? command = none →
          (last.obey command).2 = last := by
  obtain ⟨room, hroom⟩ : ∃ room, c.toNat = room + 1 := ⟨c.toNat - 1, by omega⟩
  have hcreate : create names c = .ok ⟨c.toNat, names, []⟩ := if_neg (by omega)
  have hbegun : Recent names room [] (clear ⟨c.toNat, names, []⟩) := .cleared hroom rfl
  refine ⟨_, hcreate, fun _ _ => hbegun.answers_get, ?_⟩
  intro log last
  have hlast : Recent names room log last := hbegun.after commands
  have hmin : log.rtake (min c.toNat log.length) = log.rtake (room + 1) := by
    rw [List.rtake, List.rtake, hroom]
    congr 1
    omega
  have hlength : (last.entries.length : Int) ≤ c := by
    rw [hlast.length_entries, List.rtake, List.length_drop]
    omega
  refine ⟨hlast.keys.trans hmin.symm, hlength, hlast.distinct, fun text => ?_,
    fun _ hne hnone => obey_of_none hne hnone⟩
  rw [hmin, contains_iff, hlast.keys]

/-- The dash is the only character with a name. -/
def dashOnly : CharNames := fun name => if name = "EM DASH" then some '—' else none

/-- Three patterns and a malformed one, the first of them looked up again. -/
def errand : List Command :=
  [.get "a", .get "\\N\x7bEM DASH\x7d", .get "a", .get "(oops", .get "c"]

theorem recent_of_create_errand : ∃ cache, create dashOnly 2 = .ok cache ∧
    cache.logAfter [] errand = ["a", "\\N\x7bEM DASH\x7d", "c"] ∧
    (cache.after errand).entries.keys = ["\\N\x7bEM DASH\x7d", "c"] ∧
    (cache.answers errand)[1]? = some (.pattern (.ok (some ⟨.one (.code .exact false 0x2014), 0⟩))) ∧
    (cache.answers errand)[3]? = some (.pattern (.ok none)) := by
  obtain ⟨cache, hcreate, hanswers, hkeys, -⟩ :=
    recent_of_create dashOnly (by decide : (1 : Int) ≤ 2) errand
  obtain rfl : ⟨2, dashOnly, []⟩ = cache := Except.ok.inj hcreate
  have hlog : logAfter ⟨2, dashOnly, []⟩ [] errand = ["a", "\\N\x7bEM DASH\x7d", "c"] := rfl
  have hdash : compile dashOnly "\\N\x7bEM DASH\x7d" =
      .ok (some ⟨.one (.code .exact false 0x2014), 0⟩) := rfl
  have hoops : compile dashOnly "(oops" = .ok none := rfl
  rw [hlog] at hkeys
  exact ⟨_, hcreate, hlog, hkeys, hdash ▸ hanswers 1 _ rfl, hoops ▸ hanswers 3 "(oops" rfl⟩

/-- **A look-up may raise**: a repetition count beyond the limit is refused by a fault, which the
cache passes on. -/
theorem get_raised : ¬ ∀ (names : CharNames) (cache : Cache) (text : String),
    create names 1 = .ok cache → ∃ found after, cache.get text = .ok (found, after) := by
  intro h
  obtain ⟨found, after, hget⟩ := h dashOnly ⟨1, dashOnly, []⟩ "a\x7b99999999999\x7d" rfl
  have hcompile : compile dashOnly "a\x7b99999999999\x7d" = .error .patternRange := rfl
  rw [get_of_absent rfl, hcompile] at hget
  cases hget

end Cache

end ChatFlow.Pattern
